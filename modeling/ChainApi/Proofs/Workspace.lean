import ChainApi.Proofs.Shape
import ChainApi.Translator

/-!
# ChainApi.Proofs.Workspace

A translator has no memory.  Its stack is the only thing that one question could leave to
the next, and every question puts the stack back as it found it, also where it fails with
a cycle below any number of open definitions.

* `Mirrors` — work on a stack that does what a computation without one does, and leaves
  the stack as it was;
* `Translator.translate_mirrors` — expressing a schema is such work, whatever the stack;
* `Translator.unopened_lt_room` — the stack never runs out of room;
* `Translator.call_eq` — so is every question;
* `Translator.session_forgets` — in a session each question has the reply that a new
  translator gives, and none leaves a name on the stack.
-/

namespace ChainApi

open Translating

/-! ## work that mirrors a computation -/

section Mirrors

variable {α β γ : Type} {x : Translating α} {f : α → Translating β} {w w' : Workspace}
  {opened : List String} {name : String} {e : SchemaCycle} {a : α}

theorem Translating.run_bind_of_ok (h : x.run.run w = some (.ok a, w')) :
    (x >>= f).run.run w = (f a).run.run w' := by
  show (x.run.run w).bind _ = _
  rw [h]
  rfl

theorem Translating.run_bind_of_error (h : x.run.run w = some (.error e, w')) :
    (x >>= f).run.run w = some (.error e, w') := by
  show (x.run.run w).bind _ = _
  rw [h]
  rfl

theorem Translating.run_enter_of_mem (h : name ∈ w.opened) :
    (enter name).run.run w = some (.error ⟨w.opened ++ [name]⟩, w) := by
  show (ite (name ∈ w.opened) _ _ : Translating PUnit).run.run w = _
  rw [if_pos h]
  rfl

theorem Translating.run_enter_of_not_mem (h : name ∉ w.opened) :
    (enter name).run.run w = some (.ok ⟨⟩, { w with opened := w.opened ++ [name] }) := by
  show (ite (name ∈ w.opened) _ _ : Translating PUnit).run.run w = _
  rw [if_neg h]
  rfl

/-- Work on a stack that ends, gives the notices and the outcome of a computation, and
leaves the stack as it was. -/
def Mirrors (opened : List String) (x : Translating α) (y : Logged SchemaCycle α) : Prop :=
  ∀ log, x.run.run ⟨opened, log⟩ = some (y.outcome, ⟨opened, log ++ y.log⟩)

namespace Mirrors

theorem pure (a : α) : Mirrors opened (pure a) (pure a) := by
  intro log
  rw [Logged.pure_eq, List.append_nil]
  rfl

theorem note (n : Notice) : Mirrors opened (note n) (Logged.note n) := fun _ => rfl

theorem bind {y : Logged SchemaCycle α} {g : α → Logged SchemaCycle β}
    (hx : Mirrors opened x y) (hf : ∀ a, Mirrors opened (f a) (g a)) :
    Mirrors opened (x >>= f) (y >>= g) := by
  intro log
  obtain ⟨l, e | a⟩ := y
  · exact run_bind_of_error (hx log)
  · rw [run_bind_of_ok (hx log), hf a, Logged.bind_ok, List.append_assoc]

theorem map {y : Logged SchemaCycle α} (hx : Mirrors opened x y) (g : α → β) :
    Mirrors opened (g <$> x) (g <$> y) := by
  rw [map_eq_pure_bind, map_eq_pure_bind]
  exact hx.bind fun a => pure (g a)

/-- A step that takes what is made from the result of the step before it. -/
theorem bind_of_map {y : Logged SchemaCycle γ} {h : γ → α} {g : γ → Logged SchemaCycle β}
    (hx : Mirrors opened x (h <$> y)) (hf : ∀ c, Mirrors opened (f (h c)) (g c)) :
    Mirrors opened (x >>= f) (y >>= g) := by
  intro log
  have hrun := hx log
  obtain ⟨l, e | c⟩ := y
  · exact run_bind_of_error hrun
  · rw [map_eq_pure_bind, Logged.bind_ok, Logged.pure_eq, List.append_nil] at hrun
    rw [run_bind_of_ok hrun, hf c, Logged.bind_ok, List.append_assoc]

/-- Entering a definition that is open is a cycle. -/
theorem enter_of_mem {f : PUnit → Translating α} (h : name ∈ opened) :
    Mirrors opened (enter name >>= f) (throw ⟨opened ++ [name]⟩) := by
  intro log
  rw [run_bind_of_error (run_enter_of_mem h), Logged.throw_eq, List.append_nil]

/-- Entering a definition, working on it and leaving it mirrors the work, with the
definition open. -/
theorem enter_of_not_mem {y : Logged SchemaCycle α} (h : name ∉ opened)
    (hx : Mirrors (opened ++ [name]) x y) :
    Mirrors opened
      (enter name >>= fun _ =>
        (do
          let outcome ← x.run
          leave
          return outcome : StateT Workspace Option (Except SchemaCycle α))) y := by
  intro log
  rw [run_bind_of_ok (run_enter_of_not_mem h)]
  show ((x.run.run ⟨opened ++ [name], log⟩).bind _) = _
  rw [hx log]
  show some (y.outcome, Workspace.mk (opened ++ [name]).dropLast (log ++ y.log)) = _
  rw [List.dropLast_concat]

end Mirrors

end Mirrors

/-! ## expressing -/

namespace Translator

variable {t : Translator} {opened : List String} {room : Nat} {s : Schema}
  {fields : List (String × Schema)}

theorem translateFields_mirrors (h : ∀ p ∈ fields, p.1 ≠ typeTag →
    Mirrors opened (t.translate room p.2)
      (p.2.express t.document.definitions t.options.resolveRefs opened)) :
    Mirrors opened (t.translateFields room fields)
      (expressFields t.document.definitions t.options.resolveRefs opened fields) := by
  induction fields with
  | nil =>
    rw [translateFields, expressFields_nil]
    exact .pure _
  | cons field rest ih =>
    obtain ⟨name, s⟩ := field
    have hrest := ih fun p listed => h p (List.mem_cons_of_mem _ listed)
    rw [translateFields]
    by_cases htag : name = typeTag
    · subst htag
      rw [if_pos rfl, expressFields_cons_typeTag]
      exact hrest.bind fun _ => .pure _
    · rw [if_neg htag, expressFields_cons htag]
      exact (h (name, s) List.mem_cons_self htag).bind fun _ => hrest.bind fun _ => .pure _

/-- Expressing a schema by its kind, if the parts are expressed on the stack as they are
without one. -/
theorem translateShape_mirrors (parts : ∀ p, s.Part p → Mirrors opened (t.translate room p)
      (p.express t.document.definitions t.options.resolveRefs opened)) :
    Mirrors opened (t.translateShape room s)
      (s.expressShape t.document.definitions t.options.resolveRefs opened) := by
  rw [translateShape]
  cases hkind : s.kind with
  | object =>
    rw [Schema.expressShape_object hkind]
    exact (translateFields_mirrors fun p listed other =>
      parts p.2 (.property hkind listed other)).bind fun _ => .pure _
  | array =>
    simp only
    split
    · next hitems =>
      rw [Schema.expressShape_array_of_none hkind hitems]
      exact .pure _
    · next items hitems =>
      rw [Schema.expressShape_array_of_some hkind hitems]
      exact (parts items (.items hkind hitems)).bind fun _ => .pure _
  | number | string | boolean =>
    rw [Schema.expressShape, hkind]
    exact .pure _
  | other name =>
    rw [Schema.expressShape, hkind]
    exact (Mirrors.note _).bind fun _ => .pure _

/-- Expressing a schema, with room for more definitions than are left to open. -/
theorem translate_mirrors (t : Translator) (opened : List String) (room : Nat)
    (hroom : unopened t.document.definitions opened < room) (s : Schema) :
    Mirrors opened (t.translate room s)
      (s.express t.document.definitions t.options.resolveRefs opened) := by
  induction opened, s using Schema.express_induction t.document.definitions
    generalizing room with
  | plain opened s ref ih =>
    rw [translate, ref, Schema.express_of_ref_none ref]
    exact translateShape_mirrors fun p part => ih p part room hroom
  | missing opened s pointer ref missing =>
    rw [translate, Schema.express_of_missing ref missing]
    simp only [ref, Document.resolve, missing]
    exact .pure _
  | found opened s pointer target ref found ihParts ih =>
    rw [translate, Schema.express_of_found ref found]
    simp only [ref, Document.resolve, found]
    by_cases hinline : t.options.resolveRefs
    · rw [if_pos hinline, if_pos hinline]
      -- the entry below takes one of the places that are left
      obtain ⟨room, rfl⟩ : ∃ n, room = n + 1 := ⟨room - 1, by omega⟩
      by_cases hopen : referenceName pointer ∈ opened
      · rw [if_pos hopen]
        exact .enter_of_mem hopen
      · rw [if_neg hopen]
        have hless := unopened_lt found hopen
        exact .enter_of_not_mem hopen (ih hopen room (by omega))
    · rw [if_neg hinline, if_neg hinline]
      exact translateShape_mirrors fun p part => ihParts p part room hroom

/-- There is room for all definitions. -/
theorem unopened_lt_room (t : Translator) (opened : List String) :
    unopened t.document.definitions opened < t.room :=
  Nat.lt_succ_of_le (List.length_filter_le _ _)

/-- A question about a schema, whatever is on the stack. -/
theorem schema_mirrors (t : Translator) (opened : List String) (s : Schema) :
    Mirrors opened (t.translate t.room s)
      (s.express t.document.definitions t.options.resolveRefs opened) :=
  t.translate_mirrors opened t.room (t.unopened_lt_room opened) s

theorem node_mirrors (n : Option Schema) :
    Mirrors [] (t.node n)
      (Annotated.text <$> Schema.annotate t.document.definitions t.options.resolveRefs n) := by
  cases n with
  | none => exact .pure _
  | some s =>
    rw [map_eq_pure_bind]
    exact (t.schema_mirrors [] s).bind fun _ => .pure _

theorem property_mirrors (p : Parameter) :
    Mirrors [] (t.property p) (p.property t.document.definitions t.options) := by
  rw [property, Parameter.property]
  cases p.name with
  | none => exact (Mirrors.note _).bind fun _ => .pure _
  | some name =>
    simp only
    split
    · exact .pure _
    split
    · exact .pure _
    split
    · exact (t.node_mirrors p.schema).bind_of_map fun _ => .pure _
    · exact (Mirrors.note _).bind fun _ => .pure _

theorem properties_mirrors (ps : List Parameter) :
    Mirrors [] (t.properties ps) (ChainApi.properties t.document.definitions t.options ps) := by
  induction ps with
  | nil => exact .pure _
  | cons p ps ih => exact (t.property_mirrors p).bind fun _ => ih.bind fun _ => .pure _

theorem parameters_mirrors (ps : Option (List Parameter)) :
    Mirrors [] (t.parameters ps)
      (parameterTypes t.document.definitions t.options (ps.getD [])) :=
  (t.properties_mirrors _).bind fun _ => .pure _

/-! ## questions -/

/-- The answer to a question by the computations that work without a stack. -/
def Call.answer (document : Document) (options : Options) : Call → Logged SchemaCycle Answer
  | .schema s => .annotated <$> s.express document.definitions options.resolveRefs []
  | .node n =>
    (.text ∘ Annotated.text) <$> Schema.annotate document.definitions options.resolveRefs n
  | .parameters ps => .types <$> parameterTypes document.definitions options (ps.getD [])

theorem answer_mirrors (c : Call) :
    Mirrors [] (t.answer c) (c.answer t.document t.options) := by
  cases c with
  | schema s => exact (t.schema_mirrors [] s).map _
  | node n =>
    rw [Call.answer, comp_map]
    exact (t.node_mirrors n).map Answer.text
  | parameters ps => exact (t.parameters_mirrors ps).map _

/-- A question to a translator with nothing on its stack is answered, and there is nothing
on the stack after it. -/
theorem call_eq (t : Translator) (c : Call) :
    t.call [] c = some ⟨c.answer t.document t.options, []⟩ := by
  rw [call, t.answer_mirrors c []]
  rfl

/-- A translator has no memory.  However many questions it is asked, and whichever of them
fail, each one has a reply: that of a new translator, with nothing left on the stack. -/
theorem session_forgets (document : Document) (options : Options) (calls : List Call) :
    ∃ replies, (Translator.mk document options).session [] calls = some replies ∧
      List.Forall₂ (fun c r => (Translator.mk document options).call [] c = some r ∧
        r.answer = c.answer document options ∧ r.opened = []) calls replies := by
  induction calls with
  | nil => exact ⟨[], rfl, .nil⟩
  | cons c cs ih =>
    obtain ⟨rs, hsession, hreplies⟩ := ih
    have hcall := call_eq ⟨document, options⟩ c
    refine ⟨⟨c.answer document options, []⟩ :: rs, ?_, .cons ⟨hcall, rfl, rfl⟩ hreplies⟩
    rw [session, hcall]
    simp [hsession]

end Translator

end ChainApi
