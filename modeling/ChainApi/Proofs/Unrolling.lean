import ChainApi.Proofs.Cycle
import Mathlib.Algebra.GroupWithZero.Nat
import Mathlib.Data.List.Nodup
import Mathlib.Data.List.Perm.Subperm
import Mathlib.Logic.Function.Iterate

/-!
# ChainApi.Proofs.Unrolling

The recursion that follows references comes to an end.  A call asks another one if its
answer depends on the answer of that one.  What it asks is a part of its schema, with the
same definitions open, or a definition that was not open and now is.  So the open definitions
are distinct and defined, and what is left to express gets smaller with every call, however
the definitions refer to each other.

* `Schema.asks_iff` — what a call asks;
* `Schema.Call.Sound` — the open definitions are distinct names of definitions;
* `Schema.Call.room` — what is left to express, which bounds how deep the calls go;
* `Schema.iterate_level` — with enough levels it does not matter what stands below them;
* `Schema.express_unrolls` — the recursion comes to an end, and what is open at every call.
-/

namespace ChainApi

open Relation

namespace Schema

variable {defs : Table Schema} {ask ask' : Answers} {opened : List String} {s t : Schema}
  {name : String} {c d : Call}

/-! ## calls -/

/-- What a call may lead to: the definition that a reference names, if it is not open, or a
part of a schema without a reference. -/
inductive Calls (defs : Table Schema) : Call → Call → Prop
  | target {opened : List String} {s t : Schema} {name : String} (enters : s.Enters defs name t)
      (fresh : name ∉ opened) : Calls defs ⟨opened, s⟩ ⟨opened ++ [name], t⟩
  | part {opened : List String} {s t : Schema} (plain : s.ref = none) (part : s.Part t) :
      Calls defs ⟨opened, s⟩ ⟨opened, t⟩

/-- A call asks another one if its answer hangs on the answer of that one: it changes with it
for some answers, when all others stay the same. -/
def Asks (defs : Table Schema) (c d : Call) : Prop :=
  ∃ ask ask' : Answers, (∀ e, e ≠ d → ask e = ask' e) ∧ level defs ask c ≠ level defs ask' c

theorem level_of_enters (enters : s.Enters defs name t) (fresh : name ∉ opened) :
    level defs ask ⟨opened, s⟩ = ask ⟨opened ++ [name], t⟩ := by
  cases enters with
  | intro ref found => rw [level_of_found ref found, if_neg fresh]

/-- A level depends on the answers for what the call leads to only. -/
theorem level_congr (h : ∀ d, Calls defs c d → ask d = ask' d) :
    level defs ask c = level defs ask' c := by
  obtain ⟨opened, s⟩ := c
  cases s.resolved defs with
  | plain plain =>
    rw [level_of_ref_none plain, level_of_ref_none plain]
    exact levelShape_congr fun t part => h _ (.part plain part)
  | missing ref missing => rw [level_of_missing ref missing, level_of_missing ref missing]
  | @found pointer target ref found =>
    by_cases hopen : referenceName pointer ∈ opened
    · rw [level_of_found ref found, level_of_found ref found, if_pos hopen, if_pos hopen]
    · have enters : s.Enters defs (referenceName pointer) target := .intro ref found
      rw [level_of_enters enters hopen, level_of_enters enters hopen]
      exact h _ (.target enters hopen)

theorem calls_of_asks (h : Asks defs c d) : Calls defs c d := by
  obtain ⟨ask, ask', hothers, hchange⟩ := h
  by_contra hcalls
  refine hchange (level_congr fun e he => hothers e ?_)
  rintro rfl
  exact hcalls he

/-- A failure of what is called is a failure, while all goes well if all calls do. -/
theorem asks_of_calls (h : Calls defs c d) : Asks defs c d := by
  let well : Answers := fun _ => pure ⟨.unknown, none⟩
  let ill : Answers := fun e => if e = d then throw ⟨[]⟩ else well e
  have hill : (ill d).Fails := by
    rw [show ill d = throw ⟨[]⟩ from if_pos rfl]
    exact Logged.fails_error _ _
  have hlevel : ¬ (level defs well c).Fails ∧ (level defs ill c).Fails := by
    cases h with
    | target enters fresh =>
      rw [level_of_enters enters fresh, level_of_enters enters fresh]
      exact ⟨Logged.not_fails_ok _ _, hill⟩
    | part plain part =>
      rw [level_of_ref_none plain, level_of_ref_none plain, fails_levelShape_iff,
        fails_levelShape_iff]
      exact ⟨fun ⟨_, _, hfails⟩ => Logged.not_fails_ok _ _ hfails, _, part, hill⟩
  refine ⟨well, ill, fun e he => (if_neg he).symm, fun heq => hlevel.1 ?_⟩
  rw [heq]
  exact hlevel.2

/-- A call asks what it leads to, and nothing else. -/
theorem asks_iff : Asks defs c d ↔ Calls defs c d := ⟨calls_of_asks, asks_of_calls⟩

/-! ## the end of the recursion -/

/-- The size of the definitions that are not open. -/
noncomputable def unopenedSize (defs : List (String × Schema)) (opened : List String) : Nat :=
  ((defs.filter fun e => !opened.contains e.1).map fun e => sizeOf e.2).sum

/-- What is left to express at a call: its schema, and the definitions that are not open. -/
noncomputable def Call.room (defs : Table Schema) (c : Call) : Nat :=
  sizeOf c.schema + unopenedSize defs.entries c.opened

theorem unopenedSize_cons (e : String × Schema) (es : List (String × Schema))
    (opened : List String) : unopenedSize (e :: es) opened =
      (if e.1 ∈ opened then 0 else sizeOf e.2) + unopenedSize es opened := by
  by_cases h : e.1 ∈ opened <;> simp [unopenedSize, h]

theorem unopenedSize_append_le (es : List (String × Schema)) (opened : List String)
    (name : String) : unopenedSize es (opened ++ [name]) ≤ unopenedSize es opened := by
  induction es with
  | nil => exact Nat.le_refl _
  | cons e es ih =>
    rw [unopenedSize_cons, unopenedSize_cons]
    refine Nat.add_le_add ?_ ih
    by_cases h : e.1 ∈ opened
    · rw [if_pos (List.mem_append_left _ h)]
      exact Nat.zero_le _
    · rw [if_neg h]
      split
      · exact Nat.zero_le _
      · exact Nat.le_refl _

/-- Opening a definition takes its size away. -/
theorem sizeOf_add_unopenedSize_le {es : List (String × Schema)} (listed : (name, t) ∈ es)
    (fresh : name ∉ opened) :
    sizeOf t + unopenedSize es (opened ++ [name]) ≤ unopenedSize es opened := by
  induction es with
  | nil => contradiction
  | cons e es ih =>
    obtain ⟨other, r⟩ := e
    rw [unopenedSize_cons, unopenedSize_cons]
    rcases List.mem_cons.1 listed with heq | listed
    · obtain ⟨rfl, rfl⟩ := Prod.mk.inj heq
      have hrest := unopenedSize_append_le es opened name
      rw [if_pos (List.mem_append_right _ List.mem_cons_self), if_neg fresh]
      simp only
      omega
    · have hrest := ih listed
      by_cases h : other ∈ opened
      · rw [if_pos (List.mem_append_left _ h), if_pos h]
        omega
      · rw [if_neg h]
        split <;> omega

/-- Every call leaves less to express. -/
theorem Calls.room_lt (h : Calls defs c d) : d.room defs < c.room defs := by
  cases h with
  | @target opened s t name enters fresh =>
    have hopen := sizeOf_add_unopenedSize_le (Table.mem_entries_of_get? enters.found) fresh
    have hpos : 0 < sizeOf s := Nat.zero_lt_of_lt s.sizeOf_fields
    simp only [Call.room]
    omega
  | part _ part =>
    have hless := part.sizeOf_lt
    simp only [Call.room]
    omega

/-- With more levels than there is left to express, it does not matter what stands below. -/
theorem iterate_level (ask : Answers) {n : Nat} (h : c.room defs < n) :
    (level defs)^[n] ask c = answer defs true c := by
  induction n generalizing c with
  | zero => exact absurd h (Nat.not_lt_zero _)
  | succ n ih =>
    rw [Function.iterate_succ_apply', answer_eq_level]
    refine level_congr fun d hcalls => ih ?_
    exact Nat.lt_of_lt_of_le hcalls.room_lt (Nat.le_of_lt_succ h)

/-! ## open definitions -/

/-- The open definitions are distinct names of definitions. -/
structure Call.Sound (defs : Table Schema) (c : Call) : Prop where
  nodup : c.opened.Nodup
  defined : ∀ name ∈ c.opened, name ∈ defs.keys

/-- There are no more open definitions than definitions. -/
theorem Call.Sound.length_le (h : c.Sound defs) : c.opened.length ≤ defs.size := by
  have hsub : c.opened.Subperm defs.keys := h.nodup.subperm h.defined
  simpa [Table.keys, Table.size] using hsub.length_le

/-- One call: what is asked has distinct defined names open. -/
theorem Call.Sound.calls (hsound : c.Sound defs) (h : Calls defs c d) : d.Sound defs := by
  cases h with
  | target enters fresh =>
    refine ⟨?_, fun name hmem => ?_⟩
    · simpa using hsound.nodup.concat fresh
    · rcases List.mem_append.1 hmem with hmem | hmem
      · exact hsound.defined name hmem
      · rw [List.mem_singleton.1 hmem]
        exact Table.mem_keys_of_get? enters.found
  | part _ _ => exact ⟨hsound.nodup, hsound.defined⟩

/-- A run of calls: distinct defined names are open at every call of it. -/
theorem Call.Sound.calls_run (hsound : c.Sound defs) (h : ReflTransGen (Asks defs) c d) :
    d.Sound defs := by
  induction h with
  | refl => exact hsound
  | tail _ hasks ih => exact ih.calls (asks_iff.1 hasks)

/-- **Following references comes to an end.**  The recursion answers a call by one level on
top of its own answers.  On top of any answers, more levels than there is left to express
come to the same.  From a schema with nothing open, distinct defined names are open at every
call that is reached, so no more than there are definitions; and what is asked there is a
part, smaller than the schema, with the same definitions open, or a definition, with its name
open as well, which was not. -/
theorem express_unrolls (doc : Document) :
    answer doc.definitions true = level doc.definitions (answer doc.definitions true) ∧
    (∀ (s : Schema) (opened : List String) (ask : Answers) (n : Nat),
      Call.room doc.definitions ⟨opened, s⟩ < n →
        (level doc.definitions)^[n] ask ⟨opened, s⟩ = s.express doc.definitions true opened) ∧
    ∀ (s : Schema) (c : Call), ReflTransGen (Asks doc.definitions) ⟨[], s⟩ c →
      c.opened.Nodup ∧ (∀ name ∈ c.opened, name ∈ doc.definitions.keys) ∧
      c.opened.length ≤ doc.definitions.size ∧
      ∀ d, Asks doc.definitions c d →
        d.opened = c.opened ∧ c.schema.Part d.schema ∧ sizeOf d.schema < sizeOf c.schema ∨
        ∃ name, name ∉ c.opened ∧ doc.definitions.get? name = some d.schema ∧
          d.opened = c.opened ++ [name] := by
  refine ⟨answer_eq_level _, fun s opened ask n hroom => iterate_level ask hroom, ?_⟩
  intro s c hreach
  have hempty : Call.Sound doc.definitions ⟨[], s⟩ := ⟨.nil, fun _ hmem => nomatch hmem⟩
  have hsound := hempty.calls_run hreach
  refine ⟨hsound.nodup, hsound.defined, hsound.length_le, fun d hasks => ?_⟩
  cases asks_iff.1 hasks with
  | target enters fresh => exact .inr ⟨_, fresh, enters.found, rfl⟩
  | part _ part => exact .inl ⟨rfl, part, part.sizeOf_lt⟩

/-- A reference to the definition of trees. -/
def treeReference : Schema where
  ref := some "Tree"

/-- The children of a tree. -/
def treeChildren : Schema where
  type := some "array"
  items := some treeReference

/-- A tree is an object whose children are trees. -/
def tree : Schema where
  type := some "object"
  properties := some [("children", treeChildren)]

/-- The definition of trees. -/
def forest : Document where
  definitions := .singleton "Tree" tree

theorem treeReference_enters : treeReference.Enters forest.definitions "Tree" tree := by
  have hname : referenceName "Tree" = "Tree" := by decide
  have hfound : forest.definitions.get? (referenceName "Tree") = some tree := by
    rw [hname]
    rfl
  have henters : treeReference.Enters forest.definitions (referenceName "Tree") tree :=
    .intro rfl hfound
  rwa [hname] at henters

/-- From a reference to trees the same reference is reached again, with their definition open,
and the calls end there. -/
theorem express_unrolls_forest :
    ReflTransGen (Asks forest.definitions) ⟨[], treeReference⟩ ⟨["Tree"], treeReference⟩ ∧
      (∀ d, ¬ Asks forest.definitions ⟨["Tree"], treeReference⟩ d) ∧
      ∃ n, (level forest.definitions)^[n] (fun _ => pure ⟨.unknown, none⟩) ⟨[], treeReference⟩ =
        treeReference.express forest.definitions true [] := by
  obtain ⟨-, hend, hcalls⟩ := express_unrolls forest
  have htree : Calls forest.definitions ⟨[], treeReference⟩ ⟨["Tree"], tree⟩ :=
    .target treeReference_enters List.not_mem_nil
  have hchildren : Calls forest.definitions ⟨["Tree"], tree⟩ ⟨["Tree"], treeChildren⟩ :=
    .part rfl (.property (by decide) List.mem_cons_self (by decide))
  have hreference : Calls forest.definitions ⟨["Tree"], treeChildren⟩ ⟨["Tree"], treeReference⟩ :=
    .part rfl (.items (by decide) rfl)
  have hreach : ReflTransGen (Asks forest.definitions) ⟨[], treeReference⟩
      ⟨["Tree"], treeReference⟩ :=
    .head (asks_iff.2 htree) (.head (asks_iff.2 hchildren) (.single (asks_iff.2 hreference)))
  refine ⟨hreach, fun d hasks => ?_, _, hend treeReference [] _ _ (Nat.lt_succ_self _)⟩
  obtain ⟨-, -, -, hasked⟩ := hcalls treeReference _ hreach
  rcases hasked d hasks with ⟨-, ⟨_, listed, _⟩ | ⟨kind, _⟩, -⟩ | ⟨name, fresh, found, -⟩
  · exact List.not_mem_nil listed
  · exact absurd kind (by decide)
  · have hname : name ∈ ["Tree"] := Table.mem_keys_of_get? found
    exact fresh hname

end Schema

end ChainApi
