/-!
# ChainApi.TypeExpr

TypeScript type expressions: the primitive types, arrays, and object types whose
properties stand in order, each with an optional comment in front.

* `TypeExpr.text` — the expression as it is written;
* `text_array`, `fieldsText_cons` — how the written forms are put together.
-/

namespace ChainApi

/-- A type expression. -/
inductive TypeExpr where
  | unknown
  | number
  | string
  | boolean
  | array (item : TypeExpr)
  /-- An object type: for each property its comment, its name and its type. -/
  | object (fields : List (Option String × String × TypeExpr))
  deriving Inhabited

/-- A comment in front of a declaration.  An empty comment is left out. -/
def commentText (comment : Option String) : String :=
  match comment with
  | none => ""
  | some c => if c = "" then "" else "/** " ++ c ++ " */\n"

@[simp] theorem commentText_none : commentText none = "" := rfl

@[simp] theorem commentText_empty : commentText (some "") = "" := by simp [commentText]

theorem commentText_some {c : String} (h : c ≠ "") :
    commentText (some c) = "/** " ++ c ++ " */\n" := by simp [commentText, h]

namespace TypeExpr

mutual

/-- The written form of a type.  The properties of an object type stand on lines
of their own. -/
def text : TypeExpr → String
  | unknown => "unknown"
  | number => "number"
  | string => "string"
  | boolean => "boolean"
  | array item => "Array<" ++ item.text ++ ">"
  | object [] => "\x7b\x7d"
  | object (f :: fs) => "\x7b" ++ fieldsText (f :: fs) ++ "\n\x7d"

/-- The written form of the properties of an object type. -/
def fieldsText : List (Option String × String × TypeExpr) → String
  | [] => ""
  | (comment, name, type) :: fs =>
    "\n" ++ commentText comment ++ name ++ ": " ++ type.text ++ fieldsText fs

end

@[simp] theorem text_array (t : TypeExpr) : (array t).text = "Array<" ++ t.text ++ ">" := by
  simp [text]

@[simp] theorem fieldsText_nil : fieldsText [] = "" := by simp [fieldsText]

theorem fieldsText_cons (comment : Option String) (name : String) (type : TypeExpr)
    (fs : List (Option String × String × TypeExpr)) :
    fieldsText ((comment, name, type) :: fs) =
      "\n" ++ commentText comment ++ name ++ ": " ++ type.text ++ fieldsText fs := by
  simp [fieldsText]

end TypeExpr

/-- A type with the comment that goes with it. -/
structure Annotated where
  type : TypeExpr
  comment : Option String := none
  deriving Inhabited

/-- The comment followed by the type. -/
def Annotated.text (a : Annotated) : String := commentText a.comment ++ a.type.text

end ChainApi
