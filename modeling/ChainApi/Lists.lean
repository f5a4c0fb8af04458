/-!
# ChainApi.Lists

General facts on lists, for which there is no library lemma.

* `length_filter_lt_of_imp` — a stricter test leaves fewer elements;
* `nodup_eraseDups`, `eraseDups_of_nodup`, `eraseDups_filter` — lists without repetitions;
* `mapM_eq_some_iff`, `mapM_eq_none_iff` — results that are there for all elements, or not.
-/

namespace ChainApi

/-! ## tests -/

/-- A stricter test that one more element fails leaves fewer elements. -/
theorem length_filter_lt_of_imp {p q : α → Bool} {l : List α} {a : α} (ha : a ∈ l)
    (hp : p a = false) (hq : q a = true) (h : ∀ x, p x = true → q x = true) :
    (l.filter p).length < (l.filter q).length := by
  have hboth : l.filter p = (l.filter q).filter p := by
    rw [List.filter_filter]
    refine List.filter_congr fun x _ => ?_
    cases hx : p x with
    | false => rfl
    | true => rw [h x hx, Bool.and_true]
  rw [hboth, List.length_filter_lt_length_iff_exists]
  exact ⟨a, List.mem_filter.2 ⟨ha, hq⟩, by simp [hp]⟩

/-- A run does not go on into a list whose first element ends it. -/
theorem takeWhile_append_of_head {p : α → Bool} {ys : List α} (h : ∀ y ∈ ys.head?, p y = false)
    (xs : List α) : (xs ++ ys).takeWhile p = xs.takeWhile p := by
  induction xs with
  | nil =>
    cases ys with
    | nil => rfl
    | cons y ys => exact List.takeWhile_cons_of_neg (by simpa using h y rfl)
  | cons x xs ih => rw [List.cons_append, List.takeWhile_cons, List.takeWhile_cons, ih]

/-! ## repetitions -/

section Repetitions

variable [BEq α] [LawfulBEq α]

theorem eraseDups_of_nodup {l : List α} (h : l.Nodup) : l.eraseDups = l := by
  induction l with
  | nil => rfl
  | cons a l ih =>
    rw [List.nodup_cons] at h
    have hne : ∀ b ∈ l, (!b == a) = true := by
      intro b hb
      simp only [Bool.not_eq_true', beq_eq_false_iff_ne, ne_eq]
      rintro rfl
      exact h.1 hb
    rw [List.eraseDups_cons, List.filter_eq_self.2 hne, ih h.2]

theorem nodup_eraseDups (l : List α) : l.eraseDups.Nodup := by
  match l with
  | [] => exact .nil
  | a :: l =>
    rw [List.eraseDups_cons, List.nodup_cons, List.mem_eraseDups]
    exact ⟨by simp, nodup_eraseDups _⟩
termination_by l.length
decreasing_by
  have := List.length_filter_le (fun b => !b == a) l
  simp only [List.length_cons]
  omega

/-- Elements that stand further left are erased anyway. -/
theorem eraseDups_append_filter (l m rest : List α) :
    (l ++ (m.filter fun k => !l.contains k) ++ rest).eraseDups = (l ++ (m ++ rest)).eraseDups := by
  rw [List.append_assoc, List.eraseDups_append, List.eraseDups_append]
  simp [List.removeAll, List.filter_filter]

/-- Erasing repetitions and keeping what passes a test do not interfere. -/
theorem eraseDups_filter (p : α → Bool) (l : List α) :
    (l.filter p).eraseDups = l.eraseDups.filter p := by
  match l with
  | [] => rfl
  | a :: l =>
    have ih := eraseDups_filter p (l.filter fun b => !b == a)
    rw [List.eraseDups_cons]
    by_cases ha : p a = true
    · rw [List.filter_cons_of_pos ha, List.filter_cons_of_pos ha, List.eraseDups_cons, ← ih,
        List.filter_filter, List.filter_filter]
      simp only [Bool.and_comm]
    · have hsame : ((l.filter fun b => !b == a).filter p) = l.filter p := by
        rw [List.filter_filter]
        refine List.filter_congr fun b _ => ?_
        by_cases hb : b = a
        · simp [hb, ha]
        · simp [hb]
      rw [List.filter_cons_of_neg ha, List.filter_cons_of_neg ha, ← ih, hsame]
termination_by l.length
decreasing_by
  have := List.length_filter_le (fun b => !b == a) l
  simp only [List.length_cons]
  omega

end Repetitions

/-- The first elements of a list are distinct if each of them is new where it stands. -/
theorem nodup_take_iff {l : List α} {i : Nat} :
    (l.take i).Nodup ↔ ∀ j < i, ∀ a, l[j]? = some a → a ∉ l.take j := by
  induction i with
  | zero => simp
  | succ i ih =>
    rw [List.take_add_one, List.nodup_append, ih, Nat.forall_lt_succ_right]
    cases l[i]? with
    | none => simp
    | some a => grind

/-! ## results that may be missing -/

section Results

variable {f : α → Option β} {l : List α} {bs : List β}

theorem mapM_eq_some_iff : l.mapM f = some bs ↔ l.map f = bs.map some := by
  induction l generalizing bs with
  | nil => cases bs <;> simp
  | cons a l ih =>
    rw [List.mapM_cons, List.map_cons, Option.bind_eq_bind, Option.bind_eq_some_iff]
    simp only [Option.bind_eq_bind, Option.bind_eq_some_iff, ih, Option.pure_def,
      Option.some.injEq]
    cases bs with
    | nil => simp
    | cons b bs =>
      simp only [List.cons.injEq, List.map_cons]
      constructor
      · rintro ⟨_, hb, _, hbs, rfl, rfl⟩
        exact ⟨hb, hbs⟩
      · rintro ⟨hb, hbs⟩
        exact ⟨b, hb, bs, hbs, rfl, rfl⟩

theorem mapM_eq_none_iff : l.mapM f = none ↔ ∃ a ∈ l, f a = none := by
  induction l with
  | nil => simp
  | cons a l ih =>
    simp only [List.mapM_cons, List.mem_cons, exists_eq_or_imp, ← ih]
    cases f a <;> cases l.mapM f <;> simp

end Results

theorem forM_eq_ok {l : List α} {f : α → Except ε PUnit} (h : ∀ a ∈ l, f a = .ok ⟨⟩) :
    l.forM f = .ok ⟨⟩ := by
  induction l with
  | nil => rfl
  | cons a l ih =>
    obtain ⟨ha, hl⟩ := List.forall_mem_cons.1 h
    rw [List.forM, ha]
    exact ih hl

end ChainApi
