import ChainApi.Table
import ChainApi.Value

/-!
# ChainApi.Document

API descriptions as typed records: one `Document` per chain, with the paths of
its REST server, the operations declared there, and the shared schemas and
parameters that references point at.  Only what the type declarations need is
kept; a path also keeps its unknown members, since these may name further
methods.

* `Schema.sizeOf_fields`, `Schema.sizeOf_items` — the parts of a schema are
  smaller than the schema, which is what recursions over schemas descend by;
* `PathItem.declaredMethods` — the methods that a path declares.
-/

namespace ChainApi

/-- The shape of a piece of data, or a reference to a shared shape. -/
structure Schema where
  /-- The kind of shape, such as `object`, `array` or `string`. -/
  type : Option String := none
  title : Option String := none
  description : Option String := none
  /-- The named parts of an object, in order. -/
  properties : Option (List (String × Schema)) := none
  /-- The shape of the items of an array. -/
  items : Option Schema := none
  /-- A pointer to the definition to use instead. -/
  ref : Option String := none
  deriving Inhabited

namespace Schema

/-- Is this a reference to a definition? -/
def isReference (s : Schema) : Bool := s.ref.isSome

/-- The remark that goes with a schema: its title, or else its description. -/
def comment (s : Schema) : Option String := s.title.or s.description

/-- The named parts of a schema; none if it does not list any. -/
def fields (s : Schema) : List (String × Schema) := s.properties.getD []

theorem sizeOf_fields (s : Schema) : sizeOf s.fields < sizeOf s := by
  obtain ⟨t, ti, d, p, i, r⟩ := s
  cases p <;> simp [fields] <;> omega

theorem sizeOf_items {s i : Schema} (h : s.items = some i) : sizeOf i < sizeOf s := by
  obtain ⟨t, ti, d, p, it, r⟩ := s
  simp only at h
  subst h
  simp
  omega

mutual

/-- Are two schemas the same?  Decided by walking both at once. -/
def decEq : (s t : Schema) → Decidable (s = t)
  | ⟨type, title, description, properties, items, ref⟩,
    ⟨type', title', description', properties', items', ref'⟩ =>
    if h : type = type' ∧ title = title' ∧ description = description' ∧ ref = ref' then
      match decEqProperties properties properties', decEqItems items items' with
      | isTrue hp, isTrue hi => isTrue (by
          obtain ⟨h1, h2, h3, h4⟩ := h
          subst h1 h2 h3 h4 hp hi
          rfl)
      | isFalse hp, _ => isFalse fun e => hp (Schema.mk.inj e).2.2.2.1
      | _, isFalse hi => isFalse fun e => hi (Schema.mk.inj e).2.2.2.2.1
    else isFalse fun e => h (by
      have := Schema.mk.inj e
      exact ⟨this.1, this.2.1, this.2.2.1, this.2.2.2.2.2⟩)

/-- Equality of what stands for the items of an array. -/
def decEqItems : (s t : Option Schema) → Decidable (s = t)
  | none, none => isTrue rfl
  | none, some _ => isFalse nofun
  | some _, none => isFalse nofun
  | some s, some t =>
    match decEq s t with
    | isTrue h => isTrue (by rw [h])
    | isFalse h => isFalse fun e => h (Option.some.inj e)

/-- Equality of what stands for the parts of an object. -/
def decEqProperties : (ps qs : Option (List (String × Schema))) → Decidable (ps = qs)
  | none, none => isTrue rfl
  | none, some _ => isFalse nofun
  | some _, none => isFalse nofun
  | some ps, some qs =>
    match decEqFields ps qs with
    | isTrue h => isTrue (by rw [h])
    | isFalse h => isFalse fun e => h (Option.some.inj e)

/-- Equality of lists of named parts. -/
def decEqFields : (ps qs : List (String × Schema)) → Decidable (ps = qs)
  | [], [] => isTrue rfl
  | [], _ :: _ => isFalse nofun
  | _ :: _, [] => isFalse nofun
  | (k, s) :: ps, (j, t) :: qs =>
    if hk : k = j then
      match decEq s t, decEqFields ps qs with
      | isTrue h, isTrue hs => isTrue (by rw [hk, h, hs])
      | isFalse h, _ => isFalse fun e => h (Prod.mk.inj (List.cons.inj e).1).2
      | _, isFalse h => isFalse fun e => h (List.cons.inj e).2
    else isFalse fun e => hk (Prod.mk.inj (List.cons.inj e).1).1

end

instance : DecidableEq Schema := decEq

end Schema

/-- A parameter of an operation, or a reference to a shared one. -/
structure Parameter where
  name : Option String := none
  /-- Where the parameter is given: in the `path`, the `query` or the `body`. -/
  location : Option String := none
  description : Option String := none
  /-- How a number is stored, such as `int64`. -/
  format : Option String := none
  /-- The shape of a body. -/
  schema : Option Schema := none
  /-- A pointer to the shared parameter to use instead. -/
  ref : Option String := none
  deriving DecidableEq, Inhabited

/-- Is this a reference to a shared parameter? -/
def Parameter.isReference (p : Parameter) : Bool := p.ref.isSome

/-- What an operation answers for one status. -/
structure Response where
  description : String := ""
  schema : Option Schema := none
  deriving DecidableEq, Inhabited

/-- The operation declared under one method of a path. -/
structure Operation where
  operationId : Option String := none
  summary : Option String := none
  parameters : Option (List Parameter) := none
  /-- The responses by status; `default` stands for every other one. -/
  responses : Table Response := ∅
  deriving DecidableEq, Inhabited

/-- What is declared for one path. -/
structure PathItem where
  get : Option Operation := none
  post : Option Operation := none
  /-- All other members. -/
  extra : Table Value := ∅
  deriving DecidableEq, Inhabited

namespace PathItem

/-- The methods that a path may declare. -/
def methodNames : List String := ["get", "post", "put", "delete", "patch", "head", "options"]

/-- The methods that a path declares: the two supported ones first, then the
others in document order, whatever their case. -/
def declaredMethods (item : PathItem) : List String :=
  (if item.get.isSome then ["get"] else []) ++ (if item.post.isSome then ["post"] else []) ++
    (item.extra.keys.map (·.map Char.toLower)).filter methodNames.contains

end PathItem

/-- The API description of one chain. -/
structure Document where
  /-- The version of the description format. -/
  swagger : Option String := none
  /-- Remarks on the description itself, as they are. -/
  info : Value := .map []
  paths : Table PathItem := ∅
  /-- The shared schemas. -/
  definitions : Table Schema := ∅
  /-- The shared parameters. -/
  parameters : Table Parameter := ∅
  deriving DecidableEq, Inhabited

end ChainApi
