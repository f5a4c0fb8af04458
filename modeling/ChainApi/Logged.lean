import ChainApi.Notice

/-!
# ChainApi.Logged

A computation that may fail and report is a `Logged ε α`: the notices in the
order in which they were given, and the outcome.  Notices given before a
failure are kept.

* `bind_ok`, `bind_error` — a later step runs only after a success, and its
  notices follow;
* `LawfulMonad (Logged ε)` — the order of bracketing does not matter;
* `outcome_bind_eq_ok`, `outcome_bind_eq_error` — what two steps succeed with, and what they
  fail with; `outcome_bind_pure_eq_error` if the second one only arranges the result;
* `Fails.bind`, `Fails.bind_of_forall` — two steps of which one fails.
-/

namespace ChainApi

/-- A computation that reports notices and then succeeds or fails. -/
@[ext] structure Logged (ε : Type u) (α : Type v) where
  /-- The notices, first to last. -/
  log : List Notice
  outcome : Except ε α

namespace Logged

variable {ε : Type u} {α β γ : Type v}

/-- Succeed without a notice. -/
protected def pure (a : α) : Logged ε α := ⟨[], .ok a⟩

/-- Fail without a notice. -/
def fail (e : ε) : Logged ε α := ⟨[], .error e⟩

/-- Give one notice. -/
def note (n : Notice) : Logged ε PUnit := ⟨[n], .ok ⟨⟩⟩

/-- A result that was reached without notices. -/
def ofExcept (r : Except ε α) : Logged ε α := ⟨[], r⟩

/-- Run the second step on the result of the first; its notices follow. -/
protected def bind (x : Logged ε α) (f : α → Logged ε β) : Logged ε β :=
  match x.outcome with
  | .ok a =>
    let y := f a
    ⟨x.log ++ y.log, y.outcome⟩
  | .error e => ⟨x.log, .error e⟩

instance : Monad (Logged ε) where
  pure := Logged.pure
  bind := Logged.bind

instance : MonadExcept ε (Logged ε) where
  throw := fail
  tryCatch x h :=
    match x.outcome with
    | .ok _ => x
    | .error e =>
      let y := h e
      ⟨x.log ++ y.log, y.outcome⟩

/-- Change the failure and keep everything else. -/
def mapError {δ : Type w} (f : ε → δ) (x : Logged ε α) : Logged δ α :=
  ⟨x.log, x.outcome.mapError f⟩

@[simp] theorem pure_eq (a : α) : (pure a : Logged ε α) = ⟨[], .ok a⟩ := rfl

@[simp] theorem throw_eq (e : ε) : (throw e : Logged ε α) = ⟨[], .error e⟩ := rfl

/-- After a success the next step runs, and its notices follow. -/
@[simp] theorem bind_ok (l : List Notice) (a : α) (f : α → Logged ε β) :
    ((⟨l, .ok a⟩ : Logged ε α) >>= f) = ⟨l ++ (f a).log, (f a).outcome⟩ := rfl

/-- After a failure no step runs. -/
@[simp] theorem bind_error (l : List Notice) (e : ε) (f : α → Logged ε β) :
    ((⟨l, .error e⟩ : Logged ε α) >>= f) = ⟨l, .error e⟩ := rfl

theorem id_map_eq (x : Logged ε α) : id <$> x = x := by
  obtain ⟨l, o⟩ := x
  cases o with
  | ok a => show Logged.mk (l ++ []) _ = _; simp [Logged.pure]
  | error e => rfl

theorem bind_bind (x : Logged ε α) (f : α → Logged ε β) (g : β → Logged ε γ) :
    x >>= f >>= g = x >>= fun a => f a >>= g := by
  obtain ⟨l, o⟩ := x
  cases o with
  | error e => rfl
  | ok a =>
    show Logged.bind (Logged.bind _ _) _ = Logged.bind _ fun a => Logged.bind (f a) g
    simp only [Logged.bind]
    cases (f a).outcome <;> simp

instance : LawfulMonad (Logged ε) :=
  LawfulMonad.mk' _ id_map_eq (fun _ _ => rfl) bind_bind

/-! ## outcomes -/

/-- Two steps succeed if the first one does, and then the second one. -/
theorem outcome_bind_eq_ok {x : Logged ε α} {f : α → Logged ε β} {b : β} :
    (x >>= f).outcome = .ok b ↔ ∃ a, x.outcome = .ok a ∧ (f a).outcome = .ok b := by
  obtain ⟨l, a | a⟩ := x <;> simp

/-- The notices of the second step follow those of the first. -/
theorem log_bind_of_ok {x : Logged ε α} {f : α → Logged ε β} {a : α} (h : x.outcome = .ok a) :
    (x >>= f).log = x.log ++ (f a).log := by
  obtain ⟨l, _⟩ := x
  cases h
  rfl

theorem outcome_mapError_eq_ok {δ : Type w} {g : ε → δ} {x : Logged ε α} {a : α} :
    (x.mapError g).outcome = .ok a ↔ x.outcome = .ok a := by
  obtain ⟨l, e | b⟩ := x
  · exact iff_of_false nofun nofun
  · constructor <;> intro h <;> exact congrArg Except.ok (Except.ok.inj h)

/-- Two steps fail with what the first one fails with, or else with what the second one does. -/
theorem outcome_bind_eq_error {x : Logged ε α} {f : α → Logged ε β} {e : ε} :
    (x >>= f).outcome = .error e ↔
      x.outcome = .error e ∨ ∃ a, x.outcome = .ok a ∧ (f a).outcome = .error e := by
  obtain ⟨l, a | a⟩ := x <;> simp

/-- A last step that only arranges the result is no cause of failure. -/
theorem outcome_bind_pure_eq_error {x : Logged ε α} {g : α → β} {e : ε} :
    (x >>= fun a => pure (g a)).outcome = .error e ↔ x.outcome = .error e := by
  obtain ⟨l, a | a⟩ := x <;> simp

/-- Two steps with the outcomes of two others have their outcome. -/
theorem outcome_bind_congr {x y : Logged ε α} {f g : α → Logged ε β}
    (h : x.outcome = y.outcome) (hf : ∀ a, (f a).outcome = (g a).outcome) :
    (x >>= f).outcome = (y >>= g).outcome := by
  obtain ⟨l, e | a⟩ := x <;> obtain ⟨m, _⟩ := y <;> cases h
  · rfl
  · exact hf a

theorem outcome_mapError_eq_error {δ : Type w} {g : ε → δ} {x : Logged ε α} {d : δ} :
    (x.mapError g).outcome = .error d ↔ ∃ e, x.outcome = .error e ∧ g e = d := by
  obtain ⟨l, e | a⟩ := x
  · constructor
    · exact fun h => ⟨e, rfl, Except.error.inj h⟩
    · rintro ⟨_, h, rfl⟩
      cases h
      rfl
  · constructor
    · intro h
      cases h
    · rintro ⟨_, h, -⟩
      cases h

/-- Does a computation end in a failure? -/
def Fails (x : Logged ε α) : Prop := ∃ e, x.outcome = .error e

@[simp] theorem fails_error (l : List Notice) (e : ε) : Fails (⟨l, .error e⟩ : Logged ε α) :=
  ⟨e, rfl⟩

@[simp] theorem not_fails_ok (l : List Notice) (a : α) : ¬ Fails (⟨l, .ok a⟩ : Logged ε α) := by
  simp [Fails]

/-- Two steps fail if the first one does. -/
theorem Fails.bind {x : Logged ε α} (h : x.Fails) (f : α → Logged ε β) : (x >>= f).Fails := by
  obtain ⟨e, he⟩ := h
  exact ⟨e, outcome_bind_eq_error.2 (.inl he)⟩

/-- Two steps fail if the second one does, whatever the first one comes to. -/
theorem Fails.bind_of_forall {f : α → Logged ε β} (h : ∀ a, (f a).Fails) (x : Logged ε α) :
    (x >>= f).Fails := by
  obtain ⟨l, e | a⟩ := x
  · exact fails_error l e
  · obtain ⟨e, he⟩ := h a
    exact ⟨e, outcome_bind_eq_error.2 (.inr ⟨a, rfl, he⟩)⟩

end Logged

end ChainApi
