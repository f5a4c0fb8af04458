import ChainApi.Lists
import ChainApi.Logged
import ChainApi.Reference
import ChainApi.TypeExpr

/-!
# ChainApi.Typing

From schemas to type expressions.  A reference to a definition that is not there
becomes `unknown`.  A reference to one that is there is followed if `inline` is
set, and otherwise counts as an object without listed properties unless the
referring node lists some itself.

A definition that is entered while it is being expressed is a cycle.  The names
of the definitions entered so far are passed down, so that nothing is left
behind; since they are distinct names of definitions, at most as many are open
as there are definitions, and the end is reached whatever the references are.

* `unopened_lt` — following a reference leaves fewer definitions to open;
* `Schema.express` — the type of a schema;
* `Schema.resolved` — a schema has no reference, one to no definition, or one to a definition;
* `express_of_ref_none`, `express_of_missing`, `express_of_found` — its type in each case;
* `Schema.annotate` — the same for a node that may be absent.
-/

namespace ChainApi

/-- Definitions that refer to each other in a circle: the names entered, from the
outermost one to the one that was entered a second time. -/
structure SchemaCycle where
  names : List String
  deriving DecidableEq, Repr

namespace SchemaCycle

/-- The wording of the failure. -/
def message (c : SchemaCycle) : String :=
  "Cyclic schema reference: " ++ " -> ".intercalate c.names

end SchemaCycle

/-- The kinds of shape that a schema may have. -/
inductive Kind where
  | object
  | array
  | number
  | string
  | boolean
  | other (name : String)
  deriving DecidableEq, Repr

/-- The kind that a type name stands for. -/
def Kind.ofName (name : String) : Kind :=
  if name = "object" then object
  else if name = "array" then array
  else if name = "integer" ∨ name = "number" then number
  else if name = "string" then string
  else if name = "boolean" then boolean
  else other name

/-- The kind of a schema.  Without a type name it counts as an object. -/
def Schema.kind (s : Schema) : Kind :=
  match s.type with
  | none => .object
  | some name => if name = "" then .object else .ofName name

/-! ## open definitions -/

/-- The number of definitions that are not open. -/
def unopened (defs : Table Schema) (opened : List String) : Nat :=
  (defs.keys.filter fun k => !opened.contains k).length

/-- Opening one more definition leaves fewer to open. -/
theorem unopened_lt {defs : Table Schema} {opened : List String} {name : String} {s : Schema}
    (found : defs.get? name = some s) (fresh : name ∉ opened) :
    unopened defs (opened ++ [name]) < unopened defs opened := by
  have hk : name ∈ defs.keys := Table.isSome_get?_iff.1 (by rw [found]; rfl)
  refine length_filter_lt_of_imp hk ?_ ?_ ?_
  · simp
  · simpa using fresh
  · intro x hx
    simp at hx
    simp [hx]

/-! ## types of schemas -/

/-- A property of this name is a type tag and always a string. -/
def typeTag : String := "type_url"

mutual

/-- Express a schema as a type, with `opened` the definitions entered on the way to it. -/
def Schema.express (defs : Table Schema) (inline : Bool) (opened : List String) (s : Schema) :
    Logged SchemaCycle Annotated :=
  match s.ref with
  | none => s.expressShape defs inline opened
  | some pointer =>
    match found : defs.get? (referenceName pointer) with
    | none => pure ⟨.unknown, none⟩
    | some target =>
      if inline then
        if fresh : referenceName pointer ∈ opened then
          throw ⟨opened ++ [referenceName pointer]⟩
        else
          have := unopened_lt found fresh
          target.express defs inline (opened ++ [referenceName pointer])
      else s.expressShape defs inline opened
termination_by (unopened defs opened, sizeOf s, 1)
decreasing_by
  all_goals first
    | exact Prod.Lex.right _ (Prod.Lex.right _ (by decide))
    | exact Prod.Lex.left _ _ this

/-- Express a schema by its kind, with no regard to a reference on it. -/
def Schema.expressShape (defs : Table Schema) (inline : Bool) (opened : List String)
    (s : Schema) : Logged SchemaCycle Annotated :=
  match s.kind with
  | .object => do
    let fields ← expressFields defs inline opened s.fields
    pure ⟨.object fields, s.comment⟩
  | .array =>
    match h : s.items with
    | none => pure ⟨.array .unknown, s.comment⟩
    | some items => do
      have := Schema.sizeOf_items h
      let item ← items.express defs inline opened
      pure ⟨.array item.type, s.comment⟩
  | .number => pure ⟨.number, s.comment⟩
  | .string => pure ⟨.string, s.comment⟩
  | .boolean => pure ⟨.boolean, s.comment⟩
  | .other name => do
    Logged.note (.kindUnsupported name)
    pure ⟨.unknown, s.comment⟩
termination_by (unopened defs opened, sizeOf s, 0)
decreasing_by
  · exact Prod.Lex.right _ (Prod.Lex.left _ _ s.sizeOf_fields)
  · exact Prod.Lex.right _ (Prod.Lex.left _ _ this)

/-- Express the properties of an object, in order. -/
def expressFields (defs : Table Schema) (inline : Bool) (opened : List String)
    (fields : List (String × Schema)) :
    Logged SchemaCycle (List (Option String × String × TypeExpr)) :=
  match fields with
  | [] => pure []
  | (name, s) :: rest =>
    if name = typeTag then do
      let fields ← expressFields defs inline opened rest
      pure ((none, name, .string) :: fields)
    else do
      let t ← s.express defs inline opened
      let fields ← expressFields defs inline opened rest
      pure ((t.comment, name, t.type) :: fields)
termination_by (unopened defs opened, sizeOf fields, 0)
decreasing_by
  all_goals exact Prod.Lex.right _ (Prod.Lex.left _ _ (by
    simp only [List.cons.sizeOf_spec, Prod.mk.sizeOf_spec]
    omega))

end

/-- Has a schema a reference, and does it lead to a definition? -/
inductive Schema.Resolved (defs : Table Schema) (s : Schema) : Prop
  | plain (plain : s.ref = none)
  | missing {pointer : String} (ref : s.ref = some pointer)
      (missing : defs.get? (referenceName pointer) = none)
  | found {pointer : String} {target : Schema} (ref : s.ref = some pointer)
      (found : defs.get? (referenceName pointer) = some target)

theorem Schema.resolved (defs : Table Schema) (s : Schema) : s.Resolved defs := by
  cases ref : s.ref with
  | none => exact .plain ref
  | some pointer =>
    cases found : defs.get? (referenceName pointer) with
    | none => exact .missing ref found
    | some target => exact .found ref found

section Equations

variable {defs : Table Schema} {inline : Bool} {opened : List String} {s target : Schema}
  {name pointer : String}

theorem Schema.express_of_ref_none (h : s.ref = none) :
    s.express defs inline opened = s.expressShape defs inline opened := by
  rw [express, h]

theorem Schema.express_of_missing (h : s.ref = some pointer)
    (missing : defs.get? (referenceName pointer) = none) :
    s.express defs inline opened = pure ⟨.unknown, none⟩ := by
  rw [express, h]
  simp only
  split
  · rfl
  · next found => rw [missing] at found; contradiction

theorem Schema.express_of_found (h : s.ref = some pointer)
    (found : defs.get? (referenceName pointer) = some target) :
    s.express defs inline opened =
      if inline then
        if referenceName pointer ∈ opened then throw ⟨opened ++ [referenceName pointer]⟩
        else target.express defs inline (opened ++ [referenceName pointer])
      else s.expressShape defs inline opened := by
  rw [express, h]
  simp only
  split
  · next missing => rw [missing] at found; contradiction
  · next t found' =>
    rw [found', Option.some.injEq] at found
    subst found
    rfl

theorem Schema.expressShape_object (h : s.kind = .object) :
    s.expressShape defs inline opened = (do
      let fields ← expressFields defs inline opened s.fields
      pure ⟨.object fields, s.comment⟩) := by
  rw [expressShape, h]

theorem Schema.expressShape_array_of_none (h : s.kind = .array) (items : s.items = none) :
    s.expressShape defs inline opened = pure ⟨.array .unknown, s.comment⟩ := by
  rw [expressShape, h]
  simp only
  split
  · rfl
  · next h' => rw [items] at h'; contradiction

theorem Schema.expressShape_array_of_some {i : Schema} (h : s.kind = .array)
    (items : s.items = some i) :
    s.expressShape defs inline opened = (do
      let item ← i.express defs inline opened
      pure ⟨.array item.type, s.comment⟩) := by
  rw [expressShape, h]
  simp only
  split
  · next h' => rw [items] at h'; contradiction
  · next h' => rw [items, Option.some.injEq] at h'; subst h'; rfl

theorem expressFields_nil : expressFields defs inline opened [] = pure [] := by
  rw [expressFields]

theorem expressFields_cons_typeTag (rest : List (String × Schema)) :
    expressFields defs inline opened ((typeTag, s) :: rest) = (do
      let fields ← expressFields defs inline opened rest
      pure ((none, typeTag, .string) :: fields)) := by
  rw [expressFields, if_pos rfl]

theorem expressFields_cons (other : name ≠ typeTag) (rest : List (String × Schema)) :
    expressFields defs inline opened ((name, s) :: rest) = (do
      let t ← s.express defs inline opened
      let fields ← expressFields defs inline opened rest
      pure ((t.comment, name, t.type) :: fields)) := by
  rw [expressFields, if_neg other]

end Equations

/-- Express a node that may be absent: nothing is known then. -/
def Schema.annotate (defs : Table Schema) (inline : Bool) (node : Option Schema) :
    Logged SchemaCycle Annotated :=
  match node with
  | none => pure ⟨.unknown, none⟩
  | some s => s.express defs inline []

/-- Express a schema on its own, with no definitions to refer to. -/
def Schema.standalone (s : Schema) : Logged SchemaCycle Annotated := s.express ∅ false []

end ChainApi
