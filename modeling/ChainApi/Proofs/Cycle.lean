import ChainApi.Proofs.Level
import Mathlib.Logic.Relation

/-!
# ChainApi.Proofs.Cycle

Following references fails exactly if there is a cycle to be met.  What expressing
a schema visits is a relation between schemas: a reference leads to the definition
it names and nowhere else, and a schema without a reference leads to its parts.  A
definition is reached if a reference to it is visited, and a cycle is a definition
that is reached from itself.

The names of the open definitions are the invariant that ties the two together: a
failure comes from a cycle or from reaching an open definition, and reaching an open
definition is a failure.

* `Schema.fails_express_iff` — one step: what a failure comes from;
* `Schema.meetsCycle_or_reaches_of_fails` — a failure comes from a cycle, or from a
  definition that was open before;
* `Schema.fails_of_reaches`, `Schema.fails_of_meetsCycle` — and the other way round;
* `Schema.express_error_iff_meetsCycle` — a schema fails exactly if it meets a cycle.
-/

namespace ChainApi

open Relation

namespace Schema

variable {defs : Table Schema} {inline : Bool} {opened : List String} {s t r : Schema}
  {name pointer : String}

/-! ## what is visited -/

/-- A reference to a definition: its name, and the schema that is defined. -/
inductive Enters (defs : Table Schema) (s : Schema) : String → Schema → Prop
  | intro {pointer : String} {t : Schema} (ref : s.ref = some pointer)
      (found : defs.get? (referenceName pointer) = some t) :
      Enters defs s (referenceName pointer) t

theorem Enters.found (h : s.Enters defs name t) : defs.get? name = some t := by
  cases h with
  | intro _ found => exact found

theorem not_enters_of_ref_none (plain : s.ref = none) : ¬ s.Enters defs name t := by
  rintro ⟨ref, -⟩
  rw [plain] at ref
  contradiction

/-- A reference enters the definition that it names, if there is one, and nothing else. -/
theorem enters_iff_of_ref (ref : s.ref = some pointer) :
    s.Enters defs name t ↔ referenceName pointer = name ∧ defs.get? name = some t := by
  constructor
  · rintro ⟨ref', found⟩
    rw [ref, Option.some.injEq] at ref'
    exact ⟨by rw [ref'], found⟩
  · rintro ⟨rfl, found⟩
    exact .intro ref found

/-- What expressing a schema visits next.  A reference leads to the definition it names,
and nowhere if there is none; only a schema without a reference leads to its parts. -/
inductive Visits (defs : Table Schema) : Schema → Schema → Prop
  | target {s t : Schema} {name : String} (enters : s.Enters defs name t) : Visits defs s t
  | part {s t : Schema} (plain : s.ref = none) (part : s.Part t) : Visits defs s t

/-- A definition is reached if a reference to it is visited. -/
def Reaches (defs : Table Schema) (s : Schema) (name : String) (t : Schema) : Prop :=
  ∃ r, ReflTransGen (Visits defs) s r ∧ r.Enters defs name t

/-- A cycle is met if a definition is reached that is reached from itself. -/
def MeetsCycle (defs : Table Schema) (s : Schema) : Prop :=
  ∃ name t, s.Reaches defs name t ∧ t.Reaches defs name t

theorem Enters.reaches (h : s.Enters defs name t) : s.Reaches defs name t := ⟨s, .refl, h⟩

theorem Reaches.head (h : Visits defs s r) (hr : r.Reaches defs name t) :
    s.Reaches defs name t := by
  obtain ⟨q, hpath, henters⟩ := hr
  exact ⟨q, .head h hpath, henters⟩

theorem Reaches.found (h : s.Reaches defs name t) : defs.get? name = some t := by
  obtain ⟨_, _, henters⟩ := h
  exact henters.found

theorem MeetsCycle.head (h : Visits defs s r) (hr : r.MeetsCycle defs) : s.MeetsCycle defs := by
  obtain ⟨name, t, hreach, hagain⟩ := hr
  exact ⟨name, t, hreach.head h, hagain⟩

/-- A definition that is reached from itself makes a cycle. -/
theorem meetsCycle_of_enters (h : s.Enters defs name t) (hagain : t.Reaches defs name r) :
    s.MeetsCycle defs := by
  have heq : r = t := Option.some.inj (hagain.found.symm.trans h.found)
  exact ⟨name, t, h.reaches, heq ▸ hagain⟩

/-! ## where a failure comes from -/

/-- A schema fails by its kind if one of its parts fails. -/
theorem fails_expressShape_iff :
    (s.expressShape defs inline opened).Fails ↔
      ∃ t, s.Part t ∧ (t.express defs inline opened).Fails := by
  rw [expressShape_eq_levelShape]
  exact fails_levelShape_iff

/-- One step of a failure: the definition that is entered is open, or it fails in turn, or
a part fails. -/
theorem fails_express_iff :
    (s.express defs true opened).Fails ↔
      (∃ name t, s.Enters defs name t ∧
        (name ∈ opened ∨ (t.express defs true (opened ++ [name])).Fails)) ∨
      s.ref = none ∧ ∃ t, s.Part t ∧ (t.express defs true opened).Fails := by
  cases s.resolved defs with
  | plain plain =>
    rw [express_of_ref_none plain, fails_expressShape_iff]
    simp [plain, not_enters_of_ref_none plain]
  | missing ref missing =>
    rw [express_of_missing ref missing]
    simp [enters_iff_of_ref ref, ref, missing]
  | @found pointer target ref found =>
    rw [express_of_found ref found, if_pos rfl]
    by_cases hopen : referenceName pointer ∈ opened <;>
      simp [enters_iff_of_ref ref, ref, found, hopen]

/-! ## failures and cycles -/

/-- A failure comes from a cycle, or from a definition that was open before. -/
theorem meetsCycle_or_reaches_of_fails (defs : Table Schema) (opened : List String) (s : Schema)
    (h : (s.express defs true opened).Fails) :
    s.MeetsCycle defs ∨ ∃ name ∈ opened, ∃ t, s.Reaches defs name t := by
  induction opened, s using express_induction defs with
  | plain opened s ref ih =>
    rw [express_of_ref_none ref, fails_expressShape_iff] at h
    obtain ⟨t, part, hfails⟩ := h
    rcases ih t part hfails with hcycle | ⟨name, hmem, t', hreach⟩
    · exact .inl (hcycle.head (.part ref part))
    · exact .inr ⟨name, hmem, t', hreach.head (.part ref part)⟩
  | missing opened s pointer ref missing =>
    rw [express_of_missing ref missing] at h
    exact (Logged.not_fails_ok _ _ h).elim
  | found opened s pointer target ref found _ ih =>
    have henters : s.Enters defs (referenceName pointer) target := .intro ref found
    rw [express_of_found ref found, if_pos rfl] at h
    by_cases hopen : referenceName pointer ∈ opened
    · exact .inr ⟨_, hopen, target, henters.reaches⟩
    · rw [if_neg hopen] at h
      rcases ih hopen h with hcycle | ⟨name, hmem, t, hreach⟩
      · exact .inl (hcycle.head (.target henters))
      · rcases List.mem_append.1 hmem with hmem | hmem
        · exact .inr ⟨name, hmem, t, hreach.head (.target henters)⟩
        · -- the definition that was entered is reached from itself
          rw [List.mem_singleton] at hmem
          exact .inl (meetsCycle_of_enters henters (hmem ▸ hreach))

/-- What is visited fails before the schema succeeds. -/
theorem fails_of_visits (hvisits : Visits defs s t)
    (h : ∀ opened' : List String, (∀ name ∈ opened, name ∈ opened') →
      (t.express defs true opened').Fails) : (s.express defs true opened).Fails := by
  rw [fails_express_iff]
  cases hvisits with
  | target henters =>
    exact .inl ⟨_, t, henters, .inr (h _ fun name hmem => List.mem_append_left _ hmem)⟩
  | part hplain hpart => exact .inr ⟨hplain, t, hpart, h _ fun name hmem => hmem⟩

/-- Reaching an open definition is a failure. -/
theorem fails_of_reaches (h : s.Reaches defs name t) (hopen : name ∈ opened) :
    (s.express defs true opened).Fails := by
  obtain ⟨r, hpath, henters⟩ := h
  induction hpath using ReflTransGen.head_induction_on generalizing opened with
  | refl => exact fails_express_iff.2 (.inl ⟨name, t, henters, .inl hopen⟩)
  | head hvisits _ ih => exact fails_of_visits hvisits fun _ hsub => ih (hsub name hopen)

/-- Meeting a cycle is a failure, whatever is open. -/
theorem fails_of_meetsCycle (h : s.MeetsCycle defs) : (s.express defs true opened).Fails := by
  obtain ⟨name, t, ⟨r, hpath, henters⟩, hagain⟩ := h
  induction hpath using ReflTransGen.head_induction_on generalizing opened with
  | refl =>
    have hfails : (t.express defs true (opened ++ [name])).Fails :=
      fails_of_reaches hagain (by simp)
    exact fails_express_iff.2 (.inl ⟨name, t, henters, .inr hfails⟩)
  | head hvisits _ ih => exact fails_of_visits hvisits fun _ _ => ih

/-- With nothing open before, a failure comes from a cycle. -/
theorem meetsCycle_of_fails (h : (s.express defs true []).Fails) : s.MeetsCycle defs := by
  rcases meetsCycle_or_reaches_of_fails defs [] s h with hcycle | ⟨name, hmem, _⟩
  · exact hcycle
  · exact (List.not_mem_nil hmem).elim

/-- Following the references of a document from a schema fails if and only if a cycle is
met on the way, whatever other cycles there are and however often a definition is used. -/
theorem express_error_iff_meetsCycle (doc : Document) (s : Schema) :
    (∃ cycle, (s.express doc.definitions true []).outcome = .error cycle) ↔
      s.MeetsCycle doc.definitions :=
  ⟨meetsCycle_of_fails, fails_of_meetsCycle⟩

end Schema

end ChainApi
