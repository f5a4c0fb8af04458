import ChainApi.Check
import ChainApi.Document

/-!
# ChainApi.Document.Reader

Reading the typed records of a description out of decoded data.  Unknown members
are passed over, except in a path.  Four fields may be given under a second
name: `$ref` as `ref`, `in` as `location`, `schema` as `schema_` and
`operationId` as `operation_id`.

A schema may be nested in others to a limited depth only, and it may not contain
itself.  Operations and parameters count towards the depth of the schemas in
them.

* `Schema.read`, `Parameter.read`, `Response.read`, `Operation.read`,
  `PathItem.read`, `Document.read` — one reader per record, for data with knots;
* `Schema.ofValue` and its like — the readers for data without knots.
-/

namespace ChainApi

open Value

/-- The depth to which schemas may be nested. -/
def maxDepth : Nat := 254

/-- Is this a knot that is being read already? -/
def Value.isOpen (opened : List Nat) : Value → Bool
  | .knot n => opened.contains n
  | _ => false

/-- The knots that are being read once a value is read, too. -/
def Value.andOpen (v : Value) (opened : List Nat) : List Nat :=
  match v with
  | .knot n => n :: opened
  | _ => opened

/-- Read a schema to a depth, inside the schemas of some knots. -/
def Schema.read (knots : Knots) : Nat → List Nat → Value → Checked Schema
  | 0, _, _ => .reject .endless
  | depth + 1, opened, v =>
    if v.isOpen opened then .reject .endless
    else
      let part (w : Value) := Schema.read knots depth (v.andOpen opened) w
      let v := knots.expose v
      v.checkRecord <|
        Schema.mk <$> v.textMember "type" <*> v.textMember "title" <*> v.textMember "description"
          <*> v.memberOptional "properties" "properties" (fun w =>
            Table.entries <$> checkTable part (knots.expose w))
          <*> v.memberOptional "items" "items" part
          <*> v.memberOptional "$ref" "ref" checkText

/-- Read a parameter, given the depth of its schema. -/
def Parameter.read (knots : Knots) (depth : Nat) (v : Value) : Checked Parameter :=
  let v := knots.expose v
  v.checkRecord <|
    Parameter.mk <$> v.textMember "name" <*> v.memberOptional "in" "location" checkText
      <*> v.textMember "description" <*> v.textMember "format"
      <*> v.memberOptional "schema" "schema_" (Schema.read knots depth [])
      <*> v.memberOptional "$ref" "ref" checkText

/-- Read a response, given the depth of its schema. -/
def Response.read (knots : Knots) (depth : Nat) (v : Value) : Checked Response :=
  let v := knots.expose v
  v.checkRecord <|
    Response.mk <$> v.memberOr "description" "" checkText
      <*> v.memberOptional "schema" "schema_" (Schema.read knots depth [])

/-- The entries of a mapping with every key replaced by its spelling; of two keys
with one spelling the later value stands at the earlier place. -/
def Value.spellKeys (es : List (Value × Value)) : List (Value × Value) :=
  (Table.ofList (es.map fun e => (e.1.text, e.2))).entries.map fun e => (.str e.1, e.2)

/-- Is a key of a mapping too long to be spelled? -/
def Value.hasLongKey (es : List (Value × Value)) : Bool := es.any fun e => e.1.isUnspellable [] 0

/-- Read the responses of an operation, whose statuses may be numbers. -/
def Response.readTable (knots : Knots) (depth : Nat) (v : Value) : Checked (Table Response) :=
  match knots.expose v with
  | .map es =>
    if hasLongKey es then .reject .unspellable
    else checkTable (Response.read knots depth) (.map (spellKeys es))
  | _ => .reject .notMapping

/-- Read an operation. -/
def Operation.read (knots : Knots) (v : Value) : Checked Operation :=
  let v := knots.expose v
  v.checkRecord <|
    Operation.mk <$> v.memberOptional "operationId" "operation_id" checkText
      <*> v.textMember "summary"
      <*> v.memberOptional "parameters" "parameters" (fun w =>
        checkList (Parameter.read knots (maxDepth - 2)) (knots.expose w))
      <*> v.memberOr "responses" ∅ (Response.readTable knots (maxDepth - 1))

/-- Read the members of a path that are no fields of it.  Their keys have to be
text. -/
def PathItem.extraOfEntries (es : List (Value × Value)) : Checked (Table Value) :=
  Table.ofList <$> Checked.all ((es.filter fun e => e.1 ≠ .str "get" ∧ e.1 ≠ .str "post").map
    fun e =>
      match e.1 with
      | .str k => .accepted (k, e.2)
      | key => (Checked.reject .notMemberName).under key.keyStep)

/-- Is a key a text that holds a half of a surrogate pair? -/
def Value.isHalved : Value → Bool
  | .str s => Text.hasHalf s
  | _ => false

/-- Read a path.  A key with a half of a surrogate pair spoils all of it. -/
def PathItem.read (knots : Knots) (v : Value) : Checked PathItem :=
  let v := knots.expose v
  v.checkRecord <|
    if v.entries.any (·.1.isHalved) then .reject .notUnicode
    else
      PathItem.mk <$> v.memberOptional "get" "get" (Operation.read knots)
        <*> v.memberOptional "post" "post" (Operation.read knots)
        <*> PathItem.extraOfEntries v.entries

/-- Read the version of the format, which may be a number. -/
def Document.checkVersion : Value → Checked (Option String)
  | .bool b => .accepted (some (Value.bool b).text)
  | .int i => .accepted (some (Value.int i).text)
  | .real x => .accepted (some (Value.real x).text)
  | v => checkOptional checkText v

/-- Read any mapping as it is. -/
def Value.checkMapping : Value → Checked Value
  | .map es => .accepted (.map es)
  | _ => .reject .notMapping

/-- Read a description. -/
def Document.read (data : Data) : Checked Document :=
  let knots := data.knots
  data.value.checkRecord <|
    Document.mk <$> data.value.memberOr "swagger" none Document.checkVersion
      <*> data.value.memberOr "info" (.map []) (fun w => checkMapping (knots.expose w))
      <*> data.value.memberOr "paths" ∅ (fun w =>
        checkTable (PathItem.read knots) (knots.expose w))
      <*> data.value.memberOr "definitions" ∅ (fun w =>
        checkTable (Schema.read knots maxDepth []) (knots.expose w))
      <*> data.value.memberOr "parameters" ∅ (fun w =>
        checkTable (Parameter.read knots (maxDepth - 1)) (knots.expose w))

/-! ## data without knots -/

/-- Read a schema. -/
def Schema.ofValue (v : Value) : Checked Schema := Schema.read [] maxDepth [] v

/-- Read a parameter. -/
def Parameter.ofValue (v : Value) : Checked Parameter := Parameter.read [] (maxDepth - 1) v

/-- Read a response. -/
def Response.ofValue (v : Value) : Checked Response := Response.read [] maxDepth v

/-- Read an operation. -/
def Operation.ofValue (v : Value) : Checked Operation := Operation.read [] v

/-- Read a path. -/
def PathItem.ofValue (v : Value) : Checked PathItem := PathItem.read [] v

/-- Read a description. -/
def Document.ofValue (v : Value) : Checked Document := Document.read v

end ChainApi
