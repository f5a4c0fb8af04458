import ChainApi.Typing
import Mathlib.Data.List.Forall2

/-!
# ChainApi.Proofs.Shape

The parts that the type of a schema is made of, and schemas of the same shape: these
agree but for their parts, so that they have the same type as soon as their parts have.

* `Schema.Part` — a part that counts for the type;
* `Schema.express_induction` — induction over a schema, its parts and the definitions that it
  opens, which the proofs about `Schema.express` go by;
* `Schema.rebuild` — a schema with its parts replaced;
* `Schema.expressShape_congr` — schemas of the same shape whose parts have the same
  types have the same type themselves, and the same notices and failures.
-/

namespace ChainApi

namespace Schema

variable {defs defs' : Table Schema} {inline inline' : Bool} {opened opened' : List String}
  {s s' t : Schema}

/-! ## parts -/

/-- A part that the type of a schema is made of: a property of an object, other than a
type tag, or the items of an array. -/
inductive Part (s : Schema) : Schema → Prop
  | property {name : String} {t : Schema} (kind : s.kind = .object)
      (listed : (name, t) ∈ s.fields) (other : name ≠ typeTag) : Part s t
  | items {t : Schema} (kind : s.kind = .array) (items : s.items = some t) : Part s t

/-- A part is smaller than the schema. -/
theorem Part.sizeOf_lt (h : s.Part t) : sizeOf t < sizeOf s := by
  cases h with
  | property _ listed _ =>
    have hlist := List.sizeOf_lt_of_mem listed
    have hfields := s.sizeOf_fields
    simp only [Prod.mk.sizeOf_spec] at hlist
    omega
  | items _ items => exact sizeOf_items items

theorem not_part_of_leaf (hobject : s.kind ≠ .object) (harray : s.kind ≠ .array) :
    ¬ s.Part t := by
  rintro (⟨kind, _, _⟩ | ⟨kind, _⟩)
  · exact hobject kind
  · exact harray kind

/-- Induction along the way that a schema is expressed: to show something of a schema and the
definitions that are open, it may be taken for granted of its parts, and of the definition
that its reference opens. -/
@[elab_as_elim]
theorem express_induction (defs : Table Schema) {motive : List String → Schema → Prop}
    (plain : ∀ opened s, s.ref = none → (∀ t, s.Part t → motive opened t) → motive opened s)
    (missing : ∀ opened s pointer, s.ref = some pointer →
      defs.get? (referenceName pointer) = none → motive opened s)
    (found : ∀ opened s pointer target, s.ref = some pointer →
      defs.get? (referenceName pointer) = some target → (∀ t, s.Part t → motive opened t) →
      (referenceName pointer ∉ opened → motive (opened ++ [referenceName pointer]) target) →
      motive opened s)
    (opened : List String) (s : Schema) : motive opened s := by
  have hparts : ∀ t, s.Part t → motive opened t := fun t part =>
    have := part.sizeOf_lt
    express_induction defs plain missing found opened t
  cases s.resolved defs with
  | plain ref => exact plain opened s ref hparts
  | missing ref none => exact missing opened s _ ref none
  | found ref some =>
    refine found opened s _ _ ref some hparts fun fresh => ?_
    have := unopened_lt some fresh
    exact express_induction defs plain missing found _ _
termination_by (unopened defs opened, sizeOf s)

/-! ## the same shape -/

/-- Schemas that agree but for their parts, which are related one by one. -/
structure SameShape (related : Schema → Schema → Prop) (s s' : Schema) : Prop where
  kind : s.kind = s'.kind
  comment : s.comment = s'.comment
  fields : s.kind = .object → List.Forall₂ (fun p q => p.1 = q.1 ∧
    (p.1 ≠ typeTag → related p.2 q.2)) s.fields s'.fields
  items : s.kind = .array → Option.Rel related s.items s'.items

theorem SameShape.refl {related : Schema → Schema → Prop} (h : ∀ t, s.Part t → related t t) :
    SameShape related s s := by
  refine ⟨rfl, rfl, fun kind => ?_, fun kind => ?_⟩
  · exact List.forall₂_same.2 fun p listed =>
      ⟨rfl, fun other => h p.2 (.property kind listed other)⟩
  · cases items : s.items with
    | none => exact .none
    | some t => exact .some (h t (.items kind items))

theorem expressFields_congr {fields fields' : List (String × Schema)}
    (h : List.Forall₂ (fun p q => p.1 = q.1 ∧ (p.1 ≠ typeTag →
      p.2.express defs inline opened = q.2.express defs' inline' opened')) fields fields') :
    expressFields defs inline opened fields = expressFields defs' inline' opened' fields' := by
  induction h with
  | nil => rw [expressFields_nil, expressFields_nil]
  | @cons p q fields fields' hfirst _ ih =>
    obtain ⟨name, t⟩ := p
    obtain ⟨name', t'⟩ := q
    obtain ⟨hname, hexpress⟩ := hfirst
    simp only at hname hexpress
    subst hname
    by_cases htag : name = typeTag
    · subst htag
      rw [expressFields_cons_typeTag, expressFields_cons_typeTag, ih]
    · rw [expressFields_cons htag, expressFields_cons htag, hexpress htag, ih]

/-- Schemas of the same shape have the same type if their parts have. -/
theorem expressShape_congr (h : SameShape (fun t t' =>
      t.express defs inline opened = t'.express defs' inline' opened') s s') :
    s.expressShape defs inline opened = s'.expressShape defs' inline' opened' := by
  have hkind' := h.kind
  cases hkind : s.kind with
  | object =>
    rw [hkind] at hkind'
    rw [expressShape_object hkind, expressShape_object hkind'.symm,
      expressFields_congr (h.fields hkind), h.comment]
  | array =>
    rw [hkind] at hkind'
    have hrel := h.items hkind
    generalize hitems : s.items = i, hitems' : s'.items = i' at hrel
    cases hrel with
    | none =>
      rw [expressShape_array_of_none hkind hitems,
        expressShape_array_of_none hkind'.symm hitems', h.comment]
    | some hexpress =>
      rw [expressShape_array_of_some hkind hitems,
        expressShape_array_of_some hkind'.symm hitems', hexpress, h.comment]
  | number | string | boolean | other =>
    rw [hkind] at hkind'
    rw [expressShape, expressShape, hkind, ← hkind', h.comment]

/-! ## parts replaced -/

/-- A schema with its parts replaced by something made from each of them. -/
def rebuildWith (s : Schema) (replace : (t : Schema) → s.Part t → Schema) : Schema :=
  match kind : s.kind with
  | .object =>
    { s with properties := s.properties.map fun _ => s.fields.attach.map fun p =>
        (p.1.1, if other : p.1.1 = typeTag then p.1.2
          else replace p.1.2 (.property kind p.2 other)) }
  | .array =>
    { s with items := match items : s.items with
        | none => none
        | some t => some (replace t (.items kind items)) }
  | _ => s

/-- A schema with each of its parts changed by a function. -/
def rebuild (s : Schema) (change : Schema → Schema) : Schema :=
  s.rebuildWith fun t _ => change t

/-- A property of an object, changed by a function unless it is a type tag. -/
def changeField (change : Schema → Schema) (p : String × Schema) : String × Schema :=
  (p.1, if p.1 = typeTag then p.2 else change p.2)

variable {change : Schema → Schema}

theorem rebuild_object (h : s.kind = .object) :
    s.rebuild change =
      { s with properties := s.properties.map (List.map (changeField change)) } := by
  rw [rebuild, rebuildWith]
  split
  · cases hps : s.properties with
    | none => rfl
    | some ps =>
      have hfields : s.fields = ps := by rw [fields, hps]; rfl
      have hmap : (s.fields.attach.map fun p => changeField change p.1) =
          s.fields.map (changeField change) := List.attach_map_val
      simp only [Option.map_some, dite_eq_ite]
      rw [← hfields, ← hmap]
      rfl
  · next kind => rw [h] at kind; contradiction
  · next hobject _ => exact absurd h hobject

theorem rebuild_array (h : s.kind = .array) :
    s.rebuild change = { s with items := s.items.map change } := by
  rw [rebuild, rebuildWith]
  split
  · next kind => rw [h] at kind; contradiction
  · split <;> next items => rw [items]; rfl
  · next _ harray => exact absurd h harray

theorem rebuild_of_leaf (hobject : s.kind ≠ .object) (harray : s.kind ≠ .array) :
    s.rebuild change = s := by
  rw [rebuild, rebuildWith]
  split
  · next kind => exact absurd kind hobject
  · next kind => exact absurd kind harray
  · rfl

@[simp] theorem ref_rebuild : (s.rebuild change).ref = s.ref := by
  by_cases hobject : s.kind = .object
  · rw [rebuild_object hobject]
  · by_cases harray : s.kind = .array
    · rw [rebuild_array harray]
    · rw [rebuild_of_leaf hobject harray]

theorem rebuild_congr {change' : Schema → Schema} (h : ∀ t, s.Part t → change t = change' t) :
    s.rebuild change = s.rebuild change' := by
  have heq : (fun t (_ : s.Part t) => change t) = fun t _ => change' t :=
    funext fun t => funext fun part => h t part
  rw [rebuild, rebuild, heq]

/-- Replacing parts by related ones keeps the shape. -/
theorem sameShape_rebuild {related : Schema → Schema → Prop}
    (h : ∀ t, s.Part t → related t (change t)) : SameShape related s (s.rebuild change) := by
  by_cases hobject : s.kind = .object
  · rw [rebuild_object hobject]
    refine ⟨rfl, rfl, fun _ => ?_, fun harray => ?_⟩
    · have hfields : ({ s with properties := s.properties.map (List.map (changeField change)) } :
          Schema).fields = s.fields.map (changeField change) := by
        cases hps : s.properties <;> simp [fields, hps]
      rw [hfields, List.forall₂_map_right_iff]
      refine List.forall₂_same.2 fun p hmem => ⟨rfl, fun hother => ?_⟩
      rw [changeField, if_neg hother]
      exact h p.2 (.property hobject hmem hother)
    · rw [hobject] at harray; contradiction
  · by_cases harray : s.kind = .array
    · rw [rebuild_array harray]
      refine ⟨rfl, rfl, fun hkind => absurd hkind hobject, fun _ => ?_⟩
      cases hitems : s.items with
      | none => exact .none
      | some i => exact .some (h i (.items harray hitems))
    · rw [rebuild_of_leaf hobject harray]
      exact ⟨rfl, rfl, fun hkind => absurd hkind hobject, fun hkind => absurd hkind harray⟩

end Schema

end ChainApi
