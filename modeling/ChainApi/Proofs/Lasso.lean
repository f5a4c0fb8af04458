import ChainApi.Proofs.Failures
import ChainApi.Proofs.Unrolling
import ChainApi.Proofs.Workspace

/-!
# ChainApi.Proofs.Lasso

The cycle that a failure reports.  The names that it lists are a walk through the
definitions: the first name is referred to from the schema in question, and each next
one from the definition of the name before it.  The walk is cut off as soon as it comes
back to one of its names, so that it is a lasso, a stem with a loop at its end.

The open definitions are the beginning of every walk.  A failure at the reference that
closes the loop lists them and the name that was met again; on the way out, from parts
to schemas and from definitions to the references to them, the list stays as it is, while
more and more of it is known to be a walk.

* `Schema.Refers` — a reference that is come upon in a schema;
* `Schema.Walk` — names that are referred to one from the definition of the other;
* `Schema.lasso_of_error` — what a failure lists, whatever is open;
* `Translator.lasso_of_call` — the cycle that a translator reports.
-/

namespace ChainApi

namespace Schema

variable {defs : Table Schema} {opened names : List String} {s t r : Schema} {name : String}

/-! ## walks -/

/-- A reference to a definition that is come upon in a schema: at the schema itself or in
its parts, to any depth, with no other reference on the way to it. -/
inductive Refers (defs : Table Schema) : Schema → String → Schema → Prop
  | here {s t : Schema} {name : String} (enters : s.Enters defs name t) : Refers defs s name t
  | inside {s r t : Schema} {name : String} (plain : s.ref = none) (part : s.Part r)
      (refers : Refers defs r name t) : Refers defs s name t

theorem Refers.found (h : Refers defs s name t) : defs.get? name = some t := by
  induction h with
  | here enters => exact enters.found
  | inside _ _ _ ih => exact ih

/-- A walk through the definitions: the first name is referred to from the schema, and
each next one from the definition of the name before it. -/
inductive Walk (defs : Table Schema) : Schema → List String → Prop
  | nil {s : Schema} : Walk defs s []
  | cons {s t : Schema} {name : String} {names : List String} (refers : Refers defs s name t)
      (rest : Walk defs t names) : Walk defs s (name :: names)

theorem Walk.inside (plain : s.ref = none) (part : s.Part r) (h : Walk defs r names) :
    Walk defs s names := by
  cases h with
  | nil => exact .nil
  | cons refers rest => exact .cons (.inside plain part refers) rest

/-- The names of a walk are those of definitions. -/
theorem Walk.defined (h : Walk defs s names) : ∀ name ∈ names, name ∈ defs.keys := by
  induction h with
  | nil => exact fun _ hmem => nomatch hmem
  | cons refers _ ih =>
    intro name hmem
    rcases List.mem_cons.1 hmem with rfl | hmem
    · exact Table.mem_keys_of_get? refers.found
    · exact ih name hmem

/-! ## lassos -/

/-- A lasso whose beginning is known: the open definitions, then a walk from the schema, up
to a name that stands among those before it, which are all distinct. -/
inductive Lasso (defs : Table Schema) (opened : List String) (s : Schema) : List String → Prop
  | intro {stem : List String} {last : String} (walk : Walk defs s (stem ++ [last]))
      (distinct : (opened ++ stem).Nodup) (again : last ∈ opened ++ stem) :
      Lasso defs opened s (opened ++ stem ++ [last])

/-- Meeting an open definition closes a lasso. -/
theorem Lasso.close (distinct : opened.Nodup) (enters : s.Enters defs name t)
    (hopen : name ∈ opened) : Lasso defs opened s (opened ++ [name]) := by
  have hlasso : Lasso defs opened s (opened ++ [] ++ [name]) :=
    .intro (.cons (.here enters) .nil) (by simpa using distinct) (by simpa using hopen)
  rwa [List.append_nil] at hlasso

/-- A lasso from a definition is one from a reference to it. -/
theorem Lasso.enter (enters : s.Enters defs name t) (h : Lasso defs (opened ++ [name]) t names) :
    Lasso defs opened s names := by
  cases h with
  | @intro stem last walk distinct again =>
    have hsplit : opened ++ [name] ++ stem = opened ++ name :: stem := by simp
    rw [hsplit] at distinct again ⊢
    exact .intro (.cons (.here enters) walk) distinct again

/-- A lasso from a part is one from the schema. -/
theorem Lasso.inside (plain : s.ref = none) (part : s.Part r) (h : Lasso defs opened r names) :
    Lasso defs opened s names := by
  cases h with
  | intro walk distinct again => exact .intro (walk.inside plain part) distinct again

/-- The names that a failure lists are a lasso that begins with the open definitions. -/
theorem lasso_of_error (defs : Table Schema) (opened : List String) (s : Schema)
    (distinct : opened.Nodup) {cycle : SchemaCycle}
    (h : (s.express defs true opened).outcome = .error cycle) :
    Lasso defs opened s cycle.names := by
  induction opened, s using express_induction defs with
  | plain opened s ref ih =>
    -- siblings before the part that fails have left nothing open
    rw [express_of_ref_none ref, expressShape_eq_levelShape] at h
    obtain ⟨t, part, hfails⟩ := exists_part_of_levelShape_error h
    exact (ih t part distinct hfails).inside ref part
  | missing opened s pointer ref missing =>
    rw [express_of_missing ref missing] at h
    contradiction
  | found opened s pointer target ref found _ ih =>
    have henters : s.Enters defs (referenceName pointer) target := .intro ref found
    rw [express_of_found ref found, if_pos rfl] at h
    by_cases hopen : referenceName pointer ∈ opened
    · -- the only place where a failure begins
      rw [if_pos hopen, Logged.throw_eq, Except.error.injEq] at h
      rw [← h]
      exact .close distinct henters hopen
    · rw [if_neg hopen] at h
      have hdistinct : (opened ++ [referenceName pointer]).Nodup := by
        simpa using distinct.concat hopen
      exact (ih hopen hdistinct h).enter henters

end Schema

/-! ## questions -/

namespace Translator

/-- The schemas that a question is about: the one that is given, or those of the bodies that
the parameters describe. -/
def Call.roots : Call → List Schema
  | .schema s => [s]
  | .node n => n.toList
  | .parameters ps => (ps.getD []).filterMap Parameter.namedBody

/-- A question fails as one of its schemas does. -/
theorem answer_failsBy (document : Document) (options : Options) (c : Call) :
    (c.answer document options).FailsBy
      (Schema.FailsWith document.definitions options.resolveRefs) c.roots := by
  cases c with
  | schema s =>
    rw [Call.answer, map_eq_pure_bind]
    exact (annotate_failsBy (some s)).bind_pure _
  | node n =>
    rw [Call.answer, map_eq_pure_bind]
    exact (annotate_failsBy n).bind_pure _
  | parameters ps =>
    rw [Call.answer, map_eq_pure_bind]
    exact ((properties_failsBy _).bind_pure _).bind_pure _

/-- **A reported cycle is a cycle.**  The names that a translator reports, asked with nothing
on its stack, are a walk through the definitions from one of the schemas in question.  There
are two of them at least, and all are defined; all but the last are distinct, and the last is
one of these. -/
theorem lasso_of_call {document : Document} {options : Options} {c : Call} {r : Reply}
    {cycle : SchemaCycle} (follows : options.resolveRefs = true)
    (reply : (Translator.mk document options).call [] c = some r)
    (failed : r.answer.outcome = .error cycle) :
    2 ≤ cycle.names.length ∧
    (∀ name ∈ cycle.names, name ∈ document.definitions.keys) ∧
    (∃ s ∈ c.roots, Schema.Walk document.definitions s cycle.names) ∧
    cycle.names.dropLast.Nodup ∧
    ∃ last ∈ cycle.names.dropLast, cycle.names.getLast? = some last := by
  rw [call_eq, Option.some.injEq] at reply
  rw [← reply] at failed
  obtain ⟨_, s, hroot, hfails⟩ := ((answer_failsBy document options c cycle).1 failed).exists_fault
  rw [Schema.FailsWith, follows] at hfails
  have hlasso := Schema.lasso_of_error document.definitions [] s .nil hfails
  generalize cycle.names = names at hlasso
  cases hlasso with
  | @intro stem last walk distinct again =>
    rw [List.nil_append] at distinct again ⊢
    refine ⟨?_, walk.defined, ⟨s, hroot, walk⟩, ?_, last, ?_, ?_⟩
    · have hpos := List.length_pos_of_mem again
      rw [List.length_append, List.length_singleton]
      omega
    · rwa [List.dropLast_concat]
    · rwa [List.dropLast_concat]
    · rw [List.getLast?_concat]

/-- A reference to the definition of parks. -/
def parkReference : Schema where
  ref := some "Park"

/-- A park has a tree in it, of which each child is a tree again. -/
def park : Document where
  definitions := .ofList
    [("Park", { properties := some [("tree", Schema.treeReference)] }), ("Tree", Schema.tree)]

/-- The body of a request is a park. -/
def parkParameter : Parameter where
  name := some "park"
  location := some "body"
  schema := some parkReference

theorem express_parkReference :
    (parkReference.express park.definitions true []).outcome =
      .error ⟨["Park", "Tree", "Tree"]⟩ := by
  -- the reference, the park, the reference in it, the tree, its children, and one of these
  rw [← Schema.answer_mk, Schema.answer_eq_level, Schema.answer_eq_level, Schema.answer_eq_level,
    Schema.answer_eq_level, Schema.answer_eq_level, Schema.answer_eq_level]
  rfl

/-- The way to the loop is a part of the walk: the park leads to the trees, and these to
themselves. -/
theorem lasso_of_call_park :
    ∃ r, (Translator.mk park { resolveRefs := true }).call []
        (.parameters (some [parkParameter])) = some r ∧
      r.answer.outcome = .error ⟨["Park", "Tree", "Tree"]⟩ ∧
      Schema.Walk park.definitions parkReference ["Park", "Tree", "Tree"] := by
  have hfails : ((Call.parameters (some [parkParameter])).answer park
      { resolveRefs := true }).outcome = .error ⟨["Park", "Tree", "Tree"]⟩ := by
    refine Logged.outcome_bind_eq_error.2 (.inl (Logged.outcome_bind_eq_error.2 (.inl ?_)))
    refine Logged.outcome_bind_eq_error.2 (.inl (Logged.outcome_bind_eq_error.2 (.inl ?_)))
    exact express_parkReference
  have hcall := call_eq ⟨park, { resolveRefs := true }⟩ (.parameters (some [parkParameter]))
  obtain ⟨-, -, ⟨s, hroot, hwalk⟩, -, -⟩ := lasso_of_call rfl hcall hfails
  rw [List.mem_singleton.1 hroot] at hwalk
  exact ⟨_, hcall, hfails, hwalk⟩

end Translator

end ChainApi
