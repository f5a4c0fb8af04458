import ChainApi.Proofs.Yaml.Denotation

/-!
# ChainApi.Proofs.Yaml.Scalars

What the words of a JSON text are read as, when they stand as plain scalars: the
spelling of each suggests the reading that JSON has for it.

* `Scalar.integer_integerText` — an integer is read in base ten;
* `ofSpelling_integerText` — it is spelled like nothing else;
* `readScalar_word` — every word is read as the value that it stands for.
-/

namespace ChainApi

namespace Json

variable {c : Char}

theorem contains_of_isDigit (h : c.isDigit = true) :
    "-+0123456789".toList.contains c = true ∧ "yYnNtTfFoO".toList.contains c = false :=
  ⟨of_isDigit (p := "-+0123456789".toList.contains) (by decide) h,
    (Bool.not_eq_true' _).mp
      (of_isDigit (p := fun c => !"yYnNtTfFoO".toList.contains c) (by decide) h)⟩

end Json

namespace Yaml

open Json

variable {negative : Bool} {ds cs : List Char}

namespace Scalar

/-- A text without a character has no marks between digits. -/
theorem unmarked_eq_self (h : '_' ∉ cs) : unmarked cs = cs := by
  refine List.filter_eq_self.2 fun c hc => ?_
  simp only [bne_iff_ne]
  rintro rfl
  exact h hc

theorem unsigned_integerText (hds : Digits ds) : unsigned (integerText negative ds) = ds := by
  obtain ⟨d, ds', rfl, hdigit⟩ := hds.exists_cons
  cases negative with
  | true => rfl
  | false =>
    unfold unsigned integerText
    split
    · next heq => cases heq; cases hdigit
    · next heq => cases heq; cases hdigit
    · rfl

theorem signed_digits (hds : Digits ds) : signed ds = (false, ds) := by
  obtain ⟨d, ds', rfl, hdigit⟩ := hds.exists_cons
  unfold signed
  split
  · next heq => cases heq; cases hdigit
  · next heq => cases heq; cases hdigit
  · rfl

theorem signed_integerText (hds : Digits ds) :
    signed (integerText negative ds) = (negative, ds) := by
  cases negative with
  | true => rfl
  | false => exact signed_digits hds

/-- Digits are neither trimmed nor changed. -/
theorem plain_digits (h : ∀ c ∈ ds, c.isDigit = true) : Text.Numeral.plain ds = ds := by
  have hblank (cs : List Char) (hcs : ∀ c ∈ cs, c.isDigit = true) :
      cs.dropWhile Text.Numeral.isBlank = cs := by
    cases cs with
    | nil => rfl
    | cons c cs =>
      refine List.dropWhile_cons_of_neg ?_
      have := toNat_of_isDigit (hcs c List.mem_cons_self)
      simp only [Text.Numeral.isBlank, Bool.or_eq_true, Bool.and_eq_true, decide_eq_true_eq,
        beq_iff_eq, not_or]
      omega
  have htrim : Text.Numeral.trimmed ds = ds := by
    rw [Text.Numeral.trimmed, hblank ds h, hblank _ (by simpa using h), List.reverse_reverse]
  rw [Text.Numeral.plain, htrim, List.map_congr_left fun c hc =>
    Text.Numeral.plainChar_of_lt (by have := toNat_of_isDigit (h c hc); omega), List.map_id']

theorem foldlM_eq_some {f : β → α → Option β} {g : β → α → β} {as : List α}
    (h : ∀ a ∈ as, ∀ b, f b a = some (g b a)) (b : β) :
    as.foldlM f b = some (as.foldl g b) := by
  induction as generalizing b with
  | nil => rfl
  | cons a as ih =>
    rw [List.foldlM_cons, h a List.mem_cons_self b]
    exact ih (fun a ha => h a (List.mem_cons_of_mem _ ha)) (g b a)

theorem inBase_digits (hds : Digits ds) : inBase 10 none ds = .ok (digitsValue ds) := by
  have hlen : decide (Text.Numeral.maxDigits < ds.length) = false :=
    decide_eq_false (Nat.not_lt.2 hds.length_le)
  have hempty : ds.isEmpty = false := by simpa using hds.ne_nil
  have hdigit (c : Char) (hc : c ∈ ds) : hexDigit? c = some (c.toNat - 48) ∧ c.toNat - 48 < 10 := by
    have hc := hds.digits c hc
    have := toNat_of_isDigit hc
    exact ⟨if_pos hc, by omega⟩
  unfold inBase
  simp only [plain_digits hds.digits, signed_digits hds, hlen, hempty,
    Bool.and_false, Bool.or_false, Bool.false_eq_true, if_false]
  rw [foldlM_eq_some (g := fun n c => n * 10 + (c.toNat - 48)) fun c hc n => by
    rw [(hdigit c hc).1]
    exact if_pos (hdigit c hc).2]
  rfl

theorem integer_integerText (hds : Digits ds) :
    integer (integerText negative ds) = .ok (integerValue negative ds) := by
  have hmark : '_' ∉ integerText negative ds := fun h =>
    (eq_sign_or_mem h).elim (by decide) (hds.not_mem (by decide))
  have hempty : (integerText negative ds).isEmpty = false := by
    obtain ⟨d, ds', rfl, -⟩ := hds.exists_cons
    cases negative <;> rfl
  have hcolon : ds.contains ':' = false := by simpa using hds.not_mem (by decide)
  unfold integer
  simp only [unmarked_eq_self hmark, hempty, Bool.false_eq_true, if_false, signed_integerText hds]
  by_cases hzero : ds = ['0']
  · subst hzero
    cases negative <;> rfl
  · have hhead : ds.head? ≠ some '0' := fun h => hzero (hds.canonical h)
    rw [if_neg hzero]
    split
    · exact absurd rfl hds.ne_nil
    · exact absurd rfl hhead
    · exact absurd rfl hhead
    · exact absurd rfl hhead
    · rw [hcolon, inBase_digits hds]
      cases negative <;> rfl

/-- An integer is not spelled like a number with a point. -/
theorem isFloat_integerText (hds : Digits ds) : isFloat (integerText negative ds) = false := by
  have hpoint : (ds ++ []).dropWhile (· != '.') = [] :=
    List.dropWhile_append_of_pos fun c hc => by
      simp only [bne_iff_ne]
      rintro rfl
      exact hds.not_mem (by decide) hc
  rw [List.append_nil] at hpoint
  unfold isFloat
  simp only [unsigned_integerText hds, hpoint]

theorem isInt_integerText (hds : Digits ds) : isInt (integerText negative ds) = true := by
  obtain ⟨d, ds', rfl, hdigit⟩ := hds.exists_cons
  unfold isInt
  simp only [unsigned_integerText hds]
  by_cases hzero : d = '0'
  · have := hds.canonical (by rw [hzero]; rfl)
    rw [this]
    rfl
  · have hrun : isPositiveRun (d :: ds') = true := by
      have hall : ds'.all isDigitOrMark = true := List.all_eq_true.2 fun c hc => by
        rw [isDigitOrMark, hds.digits c (List.mem_cons_of_mem _ hc), Bool.true_or]
      simp [isPositiveRun, isDigitRun, hdigit, hall, hzero]
    simp only [hrun, Bool.or_true, Bool.true_or]

end Scalar

/-- The spelling of an integer suggests an integer. -/
theorem ofSpelling_integerText (hds : Digits ds) :
    Tag.ofSpelling (String.ofList (integerText negative ds)) = .int := by
  have hfinal : Scalar.withoutFinalBreak (integerText negative ds) = integerText negative ds := by
    refine if_neg fun h => ?_
    exact (eq_sign_or_mem (List.mem_of_getLast? h)).elim (by decide) (hds.not_mem (by decide))
  have hhead : ∃ c, (integerText negative ds).head? = some c ∧
      "-+0123456789".toList.contains c = true ∧ "yYnNtTfFoO".toList.contains c = false := by
    obtain ⟨d, ds', rfl, hdigit⟩ := hds.exists_cons
    cases negative with
    | true => exact ⟨'-', rfl, by decide, by decide⟩
    | false => exact ⟨d, rfl, contains_of_isDigit hdigit⟩
  obtain ⟨c, hc, hnumber, hword⟩ := hhead
  simp only [Tag.ofSpelling, String.toList_ofList, hc, hnumber, hword, hfinal,
    Scalar.isFloat_integerText hds, Scalar.isInt_integerText hds, Bool.false_and, Bool.and_false,
    Bool.and_self, Bool.false_eq_true, if_false, if_true]

/-- A word is read as the value that it stands for. -/
theorem readScalar_word {w : Written} (hw : w.Valid) (hword : w.isWord) :
    (Tag.ofSpelling (String.ofList w.text)).isPlain = true ∧
      Build.readScalar (Tag.ofSpelling (String.ofList w.text)) (String.ofList w.text) =
        .ok w.value := by
  match w with
  | .null => exact ⟨rfl, rfl⟩
  | .bool true | .bool false => exact ⟨rfl, rfl⟩
  | .integer negative ds =>
    have hds : Digits ds := hw
    rw [Written.text, ofSpelling_integerText hds, Build.readScalar, String.toList_ofList,
      Scalar.integer_integerText hds]
    exact ⟨rfl, rfl⟩

end Yaml

end ChainApi
