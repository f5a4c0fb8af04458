/-!
# ChainApi.Text.Replace

Replacing every occurrence of a text inside another, from left to right; an
occurrence that overlaps one already replaced is passed over.

* `replaceAll_nil`, `replaceAll_cons` — one step of the scan;
* `replaceAll_append_self`, `replaceAll_append_of_not_mem` — an occurrence at the front is
  replaced, and a text in which the pattern cannot begin is passed over;
* `replaceAll_eq_self` — without an occurrence nothing changes;
* `mem_of_mem_replaceAll` — only the characters of the new text are added;
* `indentLines_eq_self` — nor does a single line that is indented further down.
-/

namespace ChainApi.Text

/-- Replace every occurrence of a non-empty pattern.  An empty pattern occurs
nowhere. -/
def replaceAll (pattern new : List Char) : List Char → List Char
  | [] => []
  | c :: cs =>
    if pattern ≠ [] ∧ pattern.isPrefixOf (c :: cs) then
      new ++ replaceAll pattern new (cs.drop (pattern.length - 1))
    else c :: replaceAll pattern new cs
termination_by cs => cs.length
decreasing_by all_goals simp only [List.length_drop, List.length_cons]; omega

@[simp] theorem replaceAll_nil (pattern new : List Char) : replaceAll pattern new [] = [] := by
  simp [replaceAll]

theorem replaceAll_cons (pattern new : List Char) (c : Char) (cs : List Char) :
    replaceAll pattern new (c :: cs) =
      if pattern ≠ [] ∧ pattern.isPrefixOf (c :: cs) then
        new ++ replaceAll pattern new (cs.drop (pattern.length - 1))
      else c :: replaceAll pattern new cs := by
  rw [replaceAll]

/-- An occurrence at the front is replaced. -/
theorem replaceAll_append_self {pattern : List Char} (nonempty : pattern ≠ [])
    (new cs : List Char) :
    replaceAll pattern new (pattern ++ cs) = new ++ replaceAll pattern new cs := by
  obtain ⟨a, rest, rfl⟩ := List.exists_cons_of_ne_nil nonempty
  have hfront : (a :: rest).isPrefixOf (a :: (rest ++ cs)) = true :=
    List.isPrefixOf_iff_prefix.2 (List.prefix_append _ _)
  rw [List.cons_append, replaceAll_cons, if_pos ⟨nonempty, hfront⟩]
  simp

/-- Without an occurrence at the front the first character stays. -/
theorem replaceAll_cons_of_not_at_front {pattern cs : List Char} {c : Char}
    (h : ¬ pattern <+: c :: cs) (new : List Char) :
    replaceAll pattern new (c :: cs) = c :: replaceAll pattern new cs := by
  rw [replaceAll_cons, if_neg fun hfront => h (List.isPrefixOf_iff_prefix.1 hfront.2)]

/-- A text without the first character of the pattern is passed over. -/
theorem replaceAll_append_of_not_mem {a : Char} {xs : List Char} (h : a ∉ xs)
    (pattern new ys : List Char) :
    replaceAll (a :: pattern) new (xs ++ ys) = xs ++ replaceAll (a :: pattern) new ys := by
  induction xs with
  | nil => rfl
  | cons x xs ih =>
    rw [List.mem_cons, not_or] at h
    have hfront : ¬ a :: pattern <+: x :: (xs ++ ys) :=
      fun hp => h.1 (List.cons_prefix_cons.1 hp).1
    rw [List.cons_append, replaceAll_cons_of_not_at_front hfront, ih h.2, List.cons_append]

/-- Without an occurrence of the pattern nothing changes. -/
theorem replaceAll_eq_self {pattern new s : List Char} (h : ¬ pattern <:+: s) :
    replaceAll pattern new s = s := by
  induction s with
  | nil => simp
  | cons c cs ih =>
    rw [replaceAll_cons_of_not_at_front fun hp => h hp.isInfix, ih]
    exact fun hi => h (hi.trans (List.suffix_cons c cs).isInfix)

/-- Only the characters of the new text are added. -/
theorem mem_of_mem_replaceAll {pattern new s : List Char} {c : Char}
    (h : c ∈ replaceAll pattern new s) : c ∈ new ∨ c ∈ s := by
  fun_induction replaceAll pattern new s with
  | case1 => exact .inr h
  | case2 d cs _ ih =>
    rcases List.mem_append.1 h with h | h
    · exact .inl h
    · exact (ih h).imp_right fun hmem => List.mem_cons_of_mem _ (List.mem_of_mem_drop hmem)
  | case3 d cs _ ih =>
    rcases List.mem_cons.1 h with rfl | h
    · exact .inr List.mem_cons_self
    · exact (ih h).imp_right (List.mem_cons_of_mem _)

/-- Write the given blanks after every line break. -/
def indentLines (pad : List Char) (s : List Char) : List Char :=
  s.flatMap fun c => if c = '\n' then c :: pad else [c]

@[simp] theorem indentLines_append (pad s t : List Char) :
    indentLines pad (s ++ t) = indentLines pad s ++ indentLines pad t := by
  simp [indentLines]

@[simp] theorem indentLines_lineBreak (pad : List Char) :
    indentLines pad ['\n'] = '\n' :: pad := by
  simp [indentLines]

/-- A single line stays as it is. -/
theorem indentLines_eq_self {pad s : List Char} (h : '\n' ∉ s) : indentLines pad s = s := by
  induction s with
  | nil => rfl
  | cons c s ih =>
    rw [List.mem_cons, not_or] at h
    have hc : indentLines pad [c] = [c] := by simp [indentLines, Ne.symm h.1]
    rw [← List.singleton_append, indentLines_append, hc, ih h.2]

end ChainApi.Text
