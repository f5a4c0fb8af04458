import ChainApi.Proofs.Shape

/-!
# ChainApi.Proofs.Level

One level of the recursion that expresses schemas, with the answers to the calls it makes as
a parameter.  The recursion is this level with its own answers put in.

* `Schema.Call` — a call of the recursion: a schema, and the definitions that are open;
* `Schema.level` — one level of the recursion;
* `Schema.answer_eq_level` — the recursion answers a call by one level on top of itself;
* `Schema.exists_part_of_levelShape_error`, `Schema.fails_levelShape_iff` — what a level fails
  with, and when it fails, without following a reference.
-/

namespace ChainApi

namespace Schema

/-- A call of the recursion: a schema to be expressed, and the definitions entered on the
way to it, from the outermost one inwards. -/
structure Call where
  opened : List String
  schema : Schema
  deriving DecidableEq

/-- Answers to calls. -/
abbrev Answers := Call → Logged SchemaCycle Annotated

/-- The answers of the recursion. -/
def answer (defs : Table Schema) (inline : Bool) : Answers := fun c =>
  c.schema.express defs inline c.opened

@[simp] theorem answer_mk (defs : Table Schema) (inline : Bool) (opened : List String)
    (s : Schema) : answer defs inline ⟨opened, s⟩ = s.express defs inline opened := rfl

variable {defs : Table Schema} {inline : Bool} {ask ask' : Answers} {opened : List String}
  {s t : Schema} {pointer : String} {fields : List (String × Schema)}

/-! ## one level -/

/-- The properties of an object, each expressed by a call. -/
def levelFields (ask : Answers) (opened : List String) :
    List (String × Schema) → Logged SchemaCycle (List (Option String × String × TypeExpr))
  | [] => pure []
  | (name, s) :: rest =>
    if name = typeTag then do
      let fields ← levelFields ask opened rest
      pure ((none, name, .string) :: fields)
    else do
      let t ← ask ⟨opened, s⟩
      let fields ← levelFields ask opened rest
      pure ((t.comment, name, t.type) :: fields)

/-- A schema by its kind, with its parts expressed by calls. -/
def levelShape (ask : Answers) (opened : List String) (s : Schema) :
    Logged SchemaCycle Annotated :=
  match s.kind with
  | .object => do
    let fields ← levelFields ask opened s.fields
    pure ⟨.object fields, s.comment⟩
  | .array =>
    match s.items with
    | none => pure ⟨.array .unknown, s.comment⟩
    | some items => do
      let item ← ask ⟨opened, items⟩
      pure ⟨.array item.type, s.comment⟩
  | .number => pure ⟨.number, s.comment⟩
  | .string => pure ⟨.string, s.comment⟩
  | .boolean => pure ⟨.boolean, s.comment⟩
  | .other name => do
    Logged.note (.kindUnsupported name)
    pure ⟨.unknown, s.comment⟩

/-- One level of the recursion when it follows references: the answer to a call, with every
call that it makes in turn put to `ask`. -/
def level (defs : Table Schema) (ask : Answers) : Answers := fun c =>
  match c.schema.ref with
  | none => levelShape ask c.opened c.schema
  | some pointer =>
    match defs.get? (referenceName pointer) with
    | none => pure ⟨.unknown, none⟩
    | some target =>
      if referenceName pointer ∈ c.opened then throw ⟨c.opened ++ [referenceName pointer]⟩
      else ask ⟨c.opened ++ [referenceName pointer], target⟩

theorem levelFields_cons_typeTag (rest : List (String × Schema)) :
    levelFields ask opened ((typeTag, s) :: rest) = (do
      let fields ← levelFields ask opened rest
      pure ((none, typeTag, .string) :: fields)) := if_pos rfl

theorem levelFields_cons {name : String} (other : name ≠ typeTag)
    (rest : List (String × Schema)) :
    levelFields ask opened ((name, s) :: rest) = (do
      let t ← ask ⟨opened, s⟩
      let fields ← levelFields ask opened rest
      pure ((t.comment, name, t.type) :: fields)) := if_neg other

theorem level_of_ref_none (h : s.ref = none) :
    level defs ask ⟨opened, s⟩ = levelShape ask opened s := by
  rw [level, h]

theorem level_of_missing (h : s.ref = some pointer)
    (missing : defs.get? (referenceName pointer) = none) :
    level defs ask ⟨opened, s⟩ = pure ⟨.unknown, none⟩ := by
  simp only [level, h, missing]

theorem level_of_found (h : s.ref = some pointer)
    (found : defs.get? (referenceName pointer) = some t) :
    level defs ask ⟨opened, s⟩ =
      if referenceName pointer ∈ opened then throw ⟨opened ++ [referenceName pointer]⟩
      else ask ⟨opened ++ [referenceName pointer], t⟩ := by
  simp only [level, h, found]

/-! ## the recursion, level by level -/

theorem expressFields_eq_levelFields (fields : List (String × Schema)) :
    expressFields defs inline opened fields = levelFields (answer defs inline) opened fields := by
  induction fields with
  | nil => rw [expressFields_nil, levelFields]
  | cons field rest ih =>
    obtain ⟨name, s⟩ := field
    by_cases htag : name = typeTag
    · subst htag
      rw [expressFields_cons_typeTag, levelFields_cons_typeTag, ih]
    · rw [expressFields_cons htag, levelFields_cons htag, ih, answer_mk]

theorem expressShape_eq_levelShape (s : Schema) :
    s.expressShape defs inline opened = levelShape (answer defs inline) opened s := by
  rw [levelShape]
  cases hkind : s.kind with
  | object => rw [expressShape_object hkind, expressFields_eq_levelFields]
  | array =>
    cases hitems : s.items with
    | none => rw [expressShape_array_of_none hkind hitems]
    | some items => simp only [expressShape_array_of_some hkind hitems, answer_mk]
  | number | string | boolean | other => rw [expressShape, hkind]

/-- The recursion answers a call by one level on top of its own answers. -/
theorem answer_eq_level (defs : Table Schema) :
    answer defs true = level defs (answer defs true) := by
  funext ⟨opened, s⟩
  rw [answer_mk]
  cases s.resolved defs with
  | plain plain =>
    rw [express_of_ref_none plain, level_of_ref_none plain, expressShape_eq_levelShape]
  | missing ref missing => rw [express_of_missing ref missing, level_of_missing ref missing]
  | found ref found =>
    rw [express_of_found ref found, level_of_found ref found, if_pos rfl, answer_mk]

/-! ## what a level depends on -/

theorem levelFields_congr (h : ∀ name t, (name, t) ∈ fields → name ≠ typeTag →
    ask ⟨opened, t⟩ = ask' ⟨opened, t⟩) :
    levelFields ask opened fields = levelFields ask' opened fields := by
  induction fields with
  | nil => rfl
  | cons field rest ih =>
    obtain ⟨name, s⟩ := field
    have hrest := ih fun n t listed => h n t (List.mem_cons_of_mem _ listed)
    by_cases htag : name = typeTag
    · subst htag
      rw [levelFields_cons_typeTag, levelFields_cons_typeTag, hrest]
    · rw [levelFields_cons htag, levelFields_cons htag, hrest, h name s List.mem_cons_self htag]

/-- Without a reference a level depends on the answers for the parts only. -/
theorem levelShape_congr (h : ∀ t, s.Part t → ask ⟨opened, t⟩ = ask' ⟨opened, t⟩) :
    levelShape ask opened s = levelShape ask' opened s := by
  rw [levelShape, levelShape]
  cases hkind : s.kind with
  | object =>
    have hfields : levelFields ask opened s.fields = levelFields ask' opened s.fields :=
      levelFields_congr fun _ t listed other => h t (.property hkind listed other)
    simp only [hfields]
  | array =>
    cases hitems : s.items with
    | none => rfl
    | some items => simp only [h items (.items hkind hitems)]
  | number | string | boolean | other => rfl

/-! ## when a level fails -/

/-- Properties fail with the failure of the call for one of them. -/
theorem exists_of_levelFields_error {cycle : SchemaCycle}
    (h : (levelFields ask opened fields).outcome = .error cycle) :
    ∃ name t, (name, t) ∈ fields ∧ name ≠ typeTag ∧ (ask ⟨opened, t⟩).outcome = .error cycle := by
  induction fields with
  | nil => contradiction
  | cons field rest ih =>
    obtain ⟨name, t⟩ := field
    have hlater : (levelFields ask opened rest).outcome = .error cycle →
        ∃ name' t', (name', t') ∈ (name, t) :: rest ∧ name' ≠ typeTag ∧
          (ask ⟨opened, t'⟩).outcome = .error cycle := by
      intro hrest
      obtain ⟨name', t', listed, other, hfails⟩ := ih hrest
      exact ⟨name', t', List.mem_cons_of_mem _ listed, other, hfails⟩
    by_cases htag : name = typeTag
    · subst htag
      rw [levelFields_cons_typeTag, Logged.outcome_bind_pure_eq_error] at h
      exact hlater h
    · rw [levelFields_cons htag, Logged.outcome_bind_eq_error] at h
      rcases h with h | ⟨a, -, h⟩
      · exact ⟨name, t, List.mem_cons_self, htag, h⟩
      · exact hlater (Logged.outcome_bind_pure_eq_error.1 h)

/-- A schema that fails by its kind fails with the failure of the call for a part. -/
theorem exists_part_of_levelShape_error {cycle : SchemaCycle}
    (h : (levelShape ask opened s).outcome = .error cycle) :
    ∃ t, s.Part t ∧ (ask ⟨opened, t⟩).outcome = .error cycle := by
  rw [levelShape] at h
  cases hkind : s.kind with
  | object =>
    simp only [hkind] at h
    obtain ⟨name, t, listed, other, hfails⟩ :=
      exists_of_levelFields_error (Logged.outcome_bind_pure_eq_error.1 h)
    exact ⟨t, .property hkind listed other, hfails⟩
  | array =>
    cases hitems : s.items with
    | none =>
      simp only [hkind, hitems] at h
      contradiction
    | some items =>
      simp only [hkind, hitems] at h
      exact ⟨items, .items hkind hitems, Logged.outcome_bind_pure_eq_error.1 h⟩
  | number | string | boolean | other =>
    simp only [hkind] at h
    contradiction

theorem fails_levelFields_of_mem {name : String} (listed : (name, t) ∈ fields)
    (other : name ≠ typeTag) (h : (ask ⟨opened, t⟩).Fails) :
    (levelFields ask opened fields).Fails := by
  induction fields with
  | nil => contradiction
  | cons field rest ih =>
    obtain ⟨name', t'⟩ := field
    by_cases htag : name' = typeTag
    · subst htag
      rw [levelFields_cons_typeTag]
      rcases List.mem_cons.1 listed with heq | listed
      · exact (other (Prod.mk.inj heq).1).elim
      · exact (ih listed).bind _
    · rw [levelFields_cons htag]
      rcases List.mem_cons.1 listed with heq | listed
      · cases heq
        exact h.bind _
      · exact .bind_of_forall (fun _ => (ih listed).bind _) _

/-- A schema fails by its kind if the call for one of its parts fails. -/
theorem fails_levelShape_iff :
    (levelShape ask opened s).Fails ↔ ∃ t, s.Part t ∧ (ask ⟨opened, t⟩).Fails := by
  constructor
  · rintro ⟨cycle, h⟩
    obtain ⟨t, part, hfails⟩ := exists_part_of_levelShape_error h
    exact ⟨t, part, cycle, hfails⟩
  · rintro ⟨t, part, hfails⟩
    rw [levelShape]
    cases part with
    | property kind listed other =>
      simp only [kind]
      exact (fails_levelFields_of_mem listed other hfails).bind _
    | items kind items =>
      simp only [kind, items]
      exact hfails.bind _

end Schema

end ChainApi
