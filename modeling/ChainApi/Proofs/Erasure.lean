import ChainApi.Proofs.Failures
import ChainApi.Proofs.Inline
import ChainApi.Proofs.SameTypes

/-!
# ChainApi.Proofs.Erasure

References that are not followed.  All that counts about such a reference is whether
there is a definition of its name: if there is one, the referring node is expressed as
if it carried no reference.  What the definitions hold is never looked at, so that
tables of definitions with the same names make the same types, notices and catalogues.

* `Schema.erase` — a schema without its references to definitions, at any depth;
* `Schema.express_erase` — without following references, the type of a schema is that
  of its erasure on its own;
* `Document.express_eq_erase` — not following references only checks that they lead
  somewhere, in schemas and in documents.
-/

namespace ChainApi

/-! ## erasure -/

mutual

/-- A schema without its references to definitions, at any depth.  References to what is
not defined stay. -/
def Schema.erase (isDefined : String → Bool) : Schema → Schema
  | ⟨type, title, description, properties, items, ref⟩ =>
    { type, title, description
      properties := eraseProperties isDefined properties
      items := eraseItems isDefined items
      ref := ref.filter fun pointer => !isDefined (referenceName pointer) }

/-- What stands for the items of an array, without references to definitions. -/
def eraseItems (isDefined : String → Bool) : Option Schema → Option Schema
  | none => none
  | some s => some (s.erase isDefined)

/-- What stands for the parts of an object, without references to definitions. -/
def eraseProperties (isDefined : String → Bool) :
    Option (List (String × Schema)) → Option (List (String × Schema))
  | none => none
  | some ps => some (eraseFields isDefined ps)

/-- Named parts without references to definitions. -/
def eraseFields (isDefined : String → Bool) : List (String × Schema) → List (String × Schema)
  | [] => []
  | (name, s) :: ps => (name, s.erase isDefined) :: eraseFields isDefined ps

end

namespace Schema

variable {isDefined : String → Bool} {defs defs' : Table Schema} {s t : Schema}

theorem eraseFields_eq_map (ps : List (String × Schema)) :
    eraseFields isDefined ps = ps.map fun p => (p.1, p.2.erase isDefined) := by
  induction ps with
  | nil => rfl
  | cons p ps ih => rw [eraseFields, ih, List.map_cons]

@[simp] theorem kind_erase (s : Schema) : (s.erase isDefined).kind = s.kind := by
  obtain ⟨type, _, _, _, _, _⟩ := s
  rw [erase, kind, kind]

@[simp] theorem comment_erase (s : Schema) : (s.erase isDefined).comment = s.comment := by
  obtain ⟨_, title, description, _, _, _⟩ := s
  rw [erase, comment, comment]

theorem fields_erase (s : Schema) :
    (s.erase isDefined).fields = s.fields.map fun p => (p.1, p.2.erase isDefined) := by
  obtain ⟨_, _, _, properties, _, _⟩ := s
  rw [erase, fields, fields]
  cases properties with
  | none => rfl
  | some ps => exact eraseFields_eq_map ps

theorem items_erase (s : Schema) :
    (s.erase isDefined).items = s.items.map (Schema.erase isDefined) := by
  obtain ⟨_, _, _, _, items, _⟩ := s
  rw [erase]
  cases items <;> rfl

theorem ref_erase (s : Schema) : (s.erase isDefined).ref =
    s.ref.filter fun pointer => !isDefined (referenceName pointer) := by
  obtain ⟨_, _, _, _, _, _⟩ := s
  rw [erase]

/-- Erasing references keeps the shape. -/
theorem sameShape_erase {related : Schema → Schema → Prop}
    (h : ∀ t, s.Part t → related t (t.erase isDefined)) :
    SameShape related s (s.erase isDefined) := by
  refine ⟨(kind_erase s).symm, (comment_erase s).symm, fun kind => ?_, fun kind => ?_⟩
  · rw [fields_erase, List.forall₂_map_right_iff]
    exact List.forall₂_same.2 fun p listed =>
      ⟨rfl, fun other => h p.2 (.property kind listed other)⟩
  · rw [items_erase]
    cases items : s.items with
    | none => exact .none
    | some t => exact .some (h t (.items kind items))

/-! ## types of erasures -/

/-- As long as references are not followed, a schema has the type of its erasure without
definitions, whatever is open. -/
theorem express_erase (defs : Table Schema) (opened : List String) (s : Schema) :
    s.express defs false opened = (s.erase defs.contains).standalone := by
  rw [standalone]
  induction opened, s using express_induction defs with
  | plain opened s ref ih =>
    have hnone : (s.erase defs.contains).ref = none := by
      rw [ref_erase, ref]
      rfl
    rw [express_of_ref_none ref, express_of_ref_none hnone]
    exact expressShape_congr (sameShape_erase ih)
  | missing opened s pointer ref missing =>
    have hfree : defs.contains (referenceName pointer) = false :=
      Table.contains_eq_false_iff.2 (Table.get?_eq_none_iff.1 missing)
    have hkept : (s.erase defs.contains).ref = some pointer := by
      rw [ref_erase, ref, Option.filter_some, hfree]
      rfl
    rw [express_of_missing ref missing, express_of_missing hkept (Table.get?_empty _)]
  | found opened s pointer target ref found ih =>
    have htaken : defs.contains (referenceName pointer) = true :=
      Table.contains_iff_mem_keys.2 (Table.mem_keys_of_get? found)
    have herased : (s.erase defs.contains).ref = none := by
      rw [ref_erase, ref, Option.filter_some, htaken]
      rfl
    rw [express_of_found ref found, if_neg Bool.false_ne_true, express_of_ref_none herased]
    exact expressShape_congr (sameShape_erase ih)

theorem contains_eq_of_keys (h : ∀ name, name ∈ defs.keys ↔ name ∈ defs'.keys) :
    defs.contains = defs'.contains := by
  funext name
  rw [Bool.eq_iff_iff, Table.contains_iff_mem_keys, Table.contains_iff_mem_keys, h]

/-- Definitions of the same names make the same types. -/
theorem express_congr_keys (h : ∀ name, name ∈ defs.keys ↔ name ∈ defs'.keys)
    (opened : List String) (s : Schema) :
    s.express defs false opened = s.express defs' false opened := by
  rw [express_erase, express_erase, contains_eq_of_keys h]

end Schema

/-! ## documents -/

namespace Document

/-- **Not following references only checks that they lead somewhere.**  A schema has the type
of the schema without its references to definitions on its own, and this is no failure.
Documents whose definitions have the same names, whatever these hold, make the same type of
every schema, and the same catalogue of the same paths and shared parameters. -/
theorem express_eq_erase (doc : Document) :
    (∀ s : Schema,
      s.express doc.definitions false [] = (s.erase doc.definitions.contains).standalone ∧
        ¬ (s.express doc.definitions false []).Fails) ∧
    ∀ doc' : Document, (∀ name, name ∈ doc.definitions.keys ↔ name ∈ doc'.definitions.keys) →
      (∀ s : Schema, s.express doc.definitions false [] = s.express doc'.definitions false []) ∧
      (doc.paths = doc'.paths → doc.parameters = doc'.parameters →
        ∀ (chain : String) (options : Options), options.resolveRefs = false →
          Source.extract ⟨chain, doc, options⟩ = Source.extract ⟨chain, doc', options⟩) := by
  refine ⟨fun s => ⟨Schema.express_erase _ _ s, s.not_fails_express_of_not_inline _ _⟩, ?_⟩
  intro doc' hnames
  refine ⟨fun s => Schema.express_congr_keys hnames [] s, ?_⟩
  intro hpaths hparameters chain options hmode
  have hsame : Source.SameTypes ⟨chain, doc, options⟩ ⟨chain, doc', options⟩ := by
    refine ⟨rfl, hparameters, rfl, rfl, fun node => ?_⟩
    cases node with
    | none => rfl
    | some s =>
      rw [hmode]
      exact Schema.express_congr_keys hnames [] s
  exact hsame.extract hpaths

/-- The paths and the names of `balances`, in another order, with definitions that only lead
back to each other. -/
def circularBalances : Document :=
  { balances with
    definitions := .ofList [("Coin", refTo "Balance"), ("Balance", refTo "Coin")] }

theorem express_eq_erase_balances :
    (∀ name, name ∈ balances.definitions.keys ↔ name ∈ circularBalances.definitions.keys) ∧
      (refTo "Balance").express balances.definitions false [] =
        (refTo "Balance").express circularBalances.definitions false [] ∧
      Source.extract ⟨"kyve", balances, {}⟩ = Source.extract ⟨"kyve", circularBalances, {}⟩ := by
  have hkeys : balances.definitions.keys = ["Balance", "Coin"] := rfl
  have hcircular : circularBalances.definitions.keys = ["Coin", "Balance"] := rfl
  have hnames : ∀ name,
      name ∈ balances.definitions.keys ↔ name ∈ circularBalances.definitions.keys := by
    intro name
    rw [hkeys, hcircular]
    simp [or_comm]
  obtain ⟨hschemas, hextract⟩ := (express_eq_erase balances).2 circularBalances hnames
  exact ⟨hnames, hschemas (refTo "Balance"), hextract rfl rfl "kyve" {} rfl⟩

end Document

end ChainApi
