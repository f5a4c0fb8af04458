import ChainApi.Proofs.Json.Written
import Mathlib.Data.Option.Basic

/-!
# ChainApi.Proofs.Json.Reading

The JSON reader reads back what is written: a text that the grammar allows has the value
that its tree stands for.

* `readString_inside` — a string literal is read back, escape by escape;
* `Written.readValue` — a value is read back at the front of a text;
* `Json.parse?_text` — a text is read back.
-/

namespace ChainApi

namespace Text

/-! ## characters as points -/

/-- The text of characters, in which no two of them stand for a half of a pair. -/
def shown (cs : List Char) : List Char := write (cs.map .char)

@[simp] theorem shown_nil : shown [] = [] := rfl

theorem shown_cons (c : Char) (cs : List Char) : shown (c :: cs) = consChar c (shown cs) := rfl

theorem consChar_of_ne {c : Char} (h : c ≠ mark) (cs : List Char) : consChar c cs = c :: cs := by
  rw [consChar, if_neg (fun hc => h hc.1)]

theorem shown_cons_of_ne {c : Char} (h : c ≠ mark) (cs : List Char) :
    shown (c :: cs) = c :: shown cs := by
  rw [shown_cons, consChar_of_ne h]

theorem shown_append {xs : List Char} (h : mark ∉ xs) (ys : List Char) :
    shown (xs ++ ys) = xs ++ shown ys := by
  induction xs with
  | nil => rfl
  | cons x xs ih =>
    rw [List.mem_cons, not_or] at h
    rw [List.cons_append, shown_cons_of_ne (Ne.symm h.1), ih h.2, List.cons_append]

theorem toList_ofChars (cs : List Char) : (ofChars cs).toList = shown cs := by
  rw [ofChars]
  split
  · rw [ofPoints, String.toList_ofList, shown]
  · next h =>
    have hfree : mark ∉ cs := by simpa using h
    rw [String.toList_ofList, ← List.append_nil cs, shown_append hfree]
    rfl

theorem head?_consChar (c : Char) (cs : List Char) : (consChar c cs).head? = some c := by
  rw [consChar]
  split <;> rfl

theorem head?_shown (cs : List Char) : (shown cs).head? = cs.head? := by
  cases cs with
  | nil => rfl
  | cons c cs => rw [shown_cons, head?_consChar, List.head?_cons]

theorem length_le_length_shown (cs : List Char) : cs.length ≤ (shown cs).length := by
  induction cs with
  | nil => exact Nat.le_refl _
  | cons c cs ih =>
    rw [shown_cons, consChar]
    split <;> simp <;> omega

theorem mark_ne_halfChar : halfChar halfCount ≠ mark := by decide

theorem isAfterMark_halfChar : isAfterMark (halfChar halfCount) = true := by decide

end Text

namespace Json

open Text

/-! ## string literals -/

section Strings

variable {cs rest : List Char} {c : Char} {a b d e f g h x letter : Char} {n u v : Nat}
  {w : List Char}

theorem ne_mark_of_hexDigit? (h : hexDigit? c = some n) : c ≠ mark := by
  rintro rfl
  have hnone : hexDigit? mark = none := by decide
  rw [hnone] at h
  cases h

/-- The digits of a numeric escape are none of the marks of a text. -/
theorem mark_not_mem_of_hex4? (h : hex4? a b c d = some n) : mark ∉ [a, b, c, d] := by
  simp only [hex4?, Option.bind_eq_bind, Option.bind_eq_some_iff] at h
  obtain ⟨_, ha, _, hb, _, hc, _, hd, -⟩ := h
  simp [Ne.symm (ne_mark_of_hexDigit? ha), Ne.symm (ne_mark_of_hexDigit? hb),
    Ne.symm (ne_mark_of_hexDigit? hc), Ne.symm (ne_mark_of_hexDigit? hd)]

theorem escape?_spec (h : escape? letter = some c) : letter ≠ mark ∧ letter ≠ 'u' ∧ c ≠ mark := by
  unfold escape? at h
  split at h <;> cases h <;> decide

/-- A character that stands for itself. -/
theorem readString_raw (hctl : 0x20 ≤ c.toNat) (hquote : c ≠ '"') (hslash : c ≠ '\\')
    (h : readString cs = some (w, rest)) :
    readString (c :: cs) =
      some (if cs.head?.any isAfterMark then c :: w else consChar c w, rest) := by
  rw [readString.eq_6 c cs hquote (fun _ _ _ _ _ _ _ _ _ h => absurd h hslash)
    (fun _ _ _ _ _ h => absurd h hslash) (fun _ _ h => absurd h hslash), h]
  have hguard : (guard (0x20 ≤ c.toNat ∧ c ≠ '\\') : Option Unit) = some () :=
    if_pos ⟨hctl, hslash⟩
  rw [hguard]
  rfl

theorem readString_short (hletter : escape? letter = some c) (h : readString cs = some (w, rest)) :
    readString ('\\' :: letter :: cs) = some (c :: w, rest) := by
  have hu := (escape?_spec hletter).2.1
  rw [readString.eq_5 letter cs (fun _ _ _ _ _ _ _ _ _ h => absurd h hu)
    (fun _ _ _ _ _ h => absurd h hu), hletter, h]
  rfl

theorem consEscape_toNat (x : Char) (w : List Char) : consEscape x.toNat w = consChar x w := by
  have hvalid : x.toNat.isValidChar := x.valid
  rw [consEscape, Point.ofNat?, if_pos hvalid, Char.ofNat_toNat]

/-- An escape of a character of the basic plane, whatever follows it. -/
theorem readString_numeric (hdigits : hex4? a b c d = some x.toNat)
    (hnext : ∀ e f g h cs', cs = '\\' :: 'u' :: e :: f :: g :: h :: cs' →
      (hex4? e f g h).isSome)
    (h : readString cs = some (w, rest)) :
    readString ('\\' :: 'u' :: a :: b :: c :: d :: cs) = some (consChar x w, rest) := by
  have hvalid : x.toNat.isValidChar := x.valid
  have hlow : ¬ (0xD800 ≤ x.toNat ∧ x.toNat < 0xDC00) := by
    rcases hvalid with h | h <;> omega
  by_cases hpair : ∃ e f g h cs', cs = '\\' :: 'u' :: e :: f :: g :: h :: cs'
  · obtain ⟨e, f, g, h', cs', rfl⟩ := hpair
    obtain ⟨v, hv⟩ := Option.isSome_iff_exists.1 (hnext _ _ _ _ _ rfl)
    rw [readString.eq_3, hdigits, hv]
    simp only [Option.bind_eq_bind, Option.bind_some]
    rw [if_neg (fun hs => hlow ⟨hs.1, hs.2.1⟩), h, ← consEscape_toNat]
    rfl
  · rw [readString.eq_4 _ _ _ _ _ fun e f g h cs' hcs => hpair ⟨e, f, g, h, cs', hcs⟩, hdigits, h,
      ← consEscape_toNat]
    rfl

theorem readString_pair (hu : u < 0x400) (hv : v < 0x400)
    (hfirst : hex4? a b c d = some (0xD800 + u)) (hsecond : hex4? e f g h = some (0xDC00 + v))
    (hx : x.toNat = 0x10000 + u * 0x400 + v) (hread : readString cs = some (w, rest)) :
    readString ('\\' :: 'u' :: a :: b :: c :: d :: '\\' :: 'u' :: e :: f :: g :: h :: cs) =
      some (consChar x w, rest) := by
  rw [readString.eq_3, hfirst, hsecond]
  simp only [Option.bind_eq_bind, Option.bind_some]
  have hpoint : 0x10000 + (0xD800 + u - 0xD800) * 0x400 + (0xDC00 + v - 0xDC00) = x.toNat := by
    omega
  rw [if_pos (by omega), hread, hpoint, ← consEscape_toNat]
  rfl

/-- Only a character that stands for itself can be a mark. -/
theorem mark_not_mem_text {p : Piece} (hp : p.Valid) (hraw : ∀ c, p ≠ .raw c) : mark ∉ p.text := by
  cases p with
  | raw c => exact absurd rfl (hraw c)
  | short letter c =>
    have hletter := (escape?_spec hp).1
    simpa [Piece.text, Ne.symm hletter] using show mark ≠ '\\' by decide
  | numeric a b c d x =>
    have hdigits := mark_not_mem_of_hex4? hp
    have hfront : mark ∉ ['\\', 'u'] := by decide
    exact fun hmem => (List.mem_append.1 (show mark ∈ ['\\', 'u'] ++ [a, b, c, d] from hmem)).elim
      hfront hdigits
  | pair a b c d e f g h x =>
    obtain ⟨u, v, -, -, hfirst, hsecond, -⟩ := hp
    have hfront : mark ∉ ['\\', 'u'] := by decide
    have hfirst := mark_not_mem_of_hex4? hfirst
    have hsecond := mark_not_mem_of_hex4? hsecond
    intro hmem
    have hmem : mark ∈ ['\\', 'u'] ++ ([a, b, c, d] ++ (['\\', 'u'] ++ [e, f, g, h])) := hmem
    simp only [List.mem_append] at hmem
    exact hmem.elim hfront fun h => h.elim hfirst fun h => h.elim hfront hsecond

theorem inside_cons (p : Piece) (ps : List Piece) (cs : List Char) :
    inside (p :: ps) ++ cs = p.text ++ (inside ps ++ cs) := by
  rw [inside, List.flatMap_cons, List.append_assoc, inside]

/-- Inside a literal, a backslash and a `u` are followed by four digits. -/
theorem isSome_hex4?_of_inside {ps : List Piece} (hvalid : ∀ p ∈ ps, p.Valid)
    (hcs : shown (inside ps ++ '"' :: rest) = '\\' :: 'u' :: e :: f :: g :: h :: cs) :
    (hex4? e f g h).isSome := by
  have hhead : (inside ps ++ '"' :: rest).head? = some '\\' := by
    rw [← head?_shown, hcs, List.head?_cons]
  cases ps with
  | nil => cases hhead
  | cons p ps =>
    have hp := hvalid p List.mem_cons_self
    rw [inside_cons] at hcs hhead
    cases p with
    | raw c => exact absurd (Option.some.inj hhead) hp.2.2
    | short letter c =>
      rw [shown_append (mark_not_mem_text hp (by simp))] at hcs
      injection hcs with _ hcs
      injection hcs with hletter
      exact absurd hletter (escape?_spec hp).2.1
    | numeric a b c d x =>
      rw [shown_append (mark_not_mem_text hp (by simp))] at hcs
      cases hcs
      rw [show hex4? e f g h = _ from hp]
      rfl
    | pair a b c d _ _ _ _ x =>
      rw [shown_append (mark_not_mem_text hp (by simp))] at hcs
      cases hcs
      obtain ⟨u, v, -, -, hfirst, -⟩ := hp
      rw [hfirst]
      rfl

/-- Where a literal goes on with a character that a mark would be misread before, so does
the text that it stands for. -/
theorem isAfterMark_head? {ps : List Piece} (rest : List Char)
    (hhead : (inside ps ++ '"' :: rest).head?.any isAfterMark) :
    (shown (ps.map Piece.char)).head?.any isAfterMark := by
  have hquote : isAfterMark '"' = false := by decide
  have hslash : isAfterMark '\\' = false := by decide
  rw [head?_shown]
  cases ps with
  | nil => exact absurd hhead (by simp [inside, hquote])
  | cons p ps =>
    cases p with
    | raw c => exact hhead
    | short | numeric | pair => exact absurd hhead (by simp [inside, Piece.text, hslash])

/-- A character that stands for itself is read back, also where the text keeps a mark and the
character after it apart. -/
theorem readString_consChar {ps : List Piece} {c : Char} {rest : List Char}
    (hc : (Piece.raw c).Valid) (hrest : readString (shown (inside ps ++ '"' :: rest)) =
      some (shown (ps.map Piece.char), shown rest)) :
    readString (consChar c (shown (inside ps ++ '"' :: rest))) =
      some (consChar c (shown (ps.map Piece.char)), shown rest) := by
  rw [consChar]
  split
  · next hmark =>
    have hafter : (shown (ps.map Piece.char)).head?.any isAfterMark := by
      refine isAfterMark_head? rest ?_
      rw [← head?_shown]
      exact hmark.2
    have hhalf := readString_raw (c := halfChar halfCount) (by decide) (by decide) (by decide)
      hrest
    rw [consChar_of_ne mark_ne_halfChar, ite_self] at hhalf
    rw [readString_raw hc.1 hc.2.1 hc.2.2 hhalf, List.head?_cons, Option.any_some,
      isAfterMark_halfChar, if_pos rfl, consChar, if_pos ⟨hmark.1, hafter⟩]
  · next hmark =>
    rw [readString_raw hc.1 hc.2.1 hc.2.2 hrest]
    split
    · next hafter =>
      have hne : c ≠ mark := fun h => hmark ⟨h, hafter⟩
      rw [consChar_of_ne hne]
    · rfl

/-- A string literal is read back, escape by escape. -/
theorem readString_inside {ps : List Piece} (hvalid : ∀ p ∈ ps, p.Valid) (rest : List Char) :
    readString (shown (inside ps ++ '"' :: rest)) =
      some (shown (ps.map Piece.char), shown rest) := by
  induction ps with
  | nil => rw [inside, List.flatMap_nil, List.nil_append, shown_cons_of_ne (by decide),
      readString.eq_2, List.map_nil, shown_nil]
  | cons p ps ih =>
    have hp := hvalid p List.mem_cons_self
    have hps : ∀ p ∈ ps, p.Valid := fun q hq => hvalid q (List.mem_cons_of_mem _ hq)
    have hrest := ih hps
    rw [inside_cons, List.map_cons, shown_cons]
    cases p with
    | raw c =>
      rw [Piece.text, List.singleton_append, shown_cons, Piece.char]
      exact readString_consChar hp hrest
    | short letter c =>
      rw [shown_append (mark_not_mem_text hp (by simp)), Piece.char,
        consChar_of_ne (escape?_spec hp).2.2]
      exact readString_short hp hrest
    | numeric a b c d x =>
      rw [shown_append (mark_not_mem_text hp (by simp))]
      exact readString_numeric hp (fun _ _ _ _ _ => isSome_hex4?_of_inside hps) hrest
    | pair a b c d e f g h x =>
      rw [shown_append (mark_not_mem_text hp (by simp))]
      obtain ⟨u, v, hu, hv, hfirst, hsecond, hx⟩ := hp
      exact readString_pair hu hv hfirst hsecond hx hrest

end Strings

/-! ## numbers and words -/

section Scalars

variable {ds cs rest : List Char} {negative : Bool}

/-- A value ends here: the text does, or a blank or the mark after a value follows. -/
def Delimited (cs : List Char) : Prop :=
  ∀ c ∈ cs.head?, isBlank c = true ∨ c = ',' ∨ c = ']' ∨ c = '}'

theorem Delimited.not_isDigit (h : Delimited cs) : ∀ c ∈ cs.head?, c.isDigit = false := by
  intro c hc
  have hblank : ∀ c, isBlank c = true → c.isDigit = false := by
    intro c hc
    simp only [isBlank, Bool.or_eq_true, beq_iff_eq] at hc
    rcases hc with ((rfl | rfl) | rfl) | rfl <;> decide
  rcases h c hc with h | rfl | rfl | rfl
  · exact hblank c h
  all_goals decide

theorem Delimited.readFraction (h : Delimited cs) : readFraction cs = (none, cs) := by
  cases cs with
  | nil => rfl
  | cons c cs =>
    have hpoint : c ≠ '.' := by
      rintro rfl
      rcases h '.' rfl with h | h | h | h <;> exact absurd h (by decide)
    unfold Json.readFraction
    split
    · next heq => exact absurd (List.cons.inj heq).1 hpoint
    · rfl

theorem Delimited.readExponent (h : Delimited cs) : readExponent cs = (none, cs) := by
  cases cs with
  | nil => rfl
  | cons c cs =>
    have hletter : ¬ (c = 'e' ∨ c = 'E') := by
      rintro (rfl | rfl)
      · rcases h 'e' rfl with h | h | h | h <;> exact absurd h (by decide)
      · rcases h 'E' rfl with h | h | h | h <;> exact absurd h (by decide)
    rw [Json.readExponent, if_neg hletter]

theorem takeWhile_isDigit (hds : ∀ c ∈ ds, c.isDigit = true) (hrest : Delimited rest) :
    (ds ++ rest).takeWhile Char.isDigit = ds := by
  rw [List.takeWhile_append_of_pos hds]
  cases rest with
  | nil => simp
  | cons c rest => simp [hrest.not_isDigit c rfl]

/-- An integer is read up to where it ends. -/
theorem readNumber_integer (hds : Digits ds) (hrest : Delimited rest) :
    readNumber (integerText negative ds ++ rest) =
      some (.int (integerValue negative ds), rest) := by
  obtain ⟨d, ds', rfl, hdigit⟩ := hds.exists_cons
  have hsign : d ≠ '-' := by
    rintro rfl
    exact absurd hdigit (by decide)
  have hwhole : (if ((d :: ds') ++ rest).head? == some '0' then ['0']
      else ((d :: ds') ++ rest).takeWhile Char.isDigit) = d :: ds' := by
    split
    · next hzero => exact (hds.canonical (by simpa using hzero)).symm
    · exact takeWhile_isDigit hds.digits hrest
  have hlen : ¬ Text.Numeral.maxDigits < (d :: ds').length := Nat.not_lt.2 hds.length_le
  have hdrop : (if negative = true then (integerText negative (d :: ds') ++ rest).drop 1
      else integerText negative (d :: ds') ++ rest) = (d :: ds') ++ rest := by
    cases negative <;> rfl
  have hnegative : ((integerText negative (d :: ds') ++ rest).head? == some '-') = negative := by
    cases negative <;> simp [integerText, hsign]
  unfold readNumber
  simp only [hnegative, hdrop, hwhole, List.drop_left, hrest.readFraction, hrest.readExponent]
  simp only [List.isEmpty_cons, Bool.false_eq_true, if_false, Option.isNone_none, and_self,
    if_true, if_neg hlen]
  rfl

/-- No integer starts like a word. -/
theorem readWord_integer (hds : Digits ds) :
    readWord (integerText negative ds ++ rest) = none := by
  obtain ⟨d, ds', rfl, hdigit⟩ := hds.exists_cons
  have hne (c : Char) (hc : c.isDigit = false) : c ≠ d := by
    rintro rfl
    rw [hdigit] at hc
    cases hc
  have hn := hne 'n' (by decide)
  have ht := hne 't' (by decide)
  have hf := hne 'f' (by decide)
  have hN := hne 'N' (by decide)
  have hI := hne 'I' (by decide)
  have hsign := hne '-' (by decide)
  cases negative <;> simp [readWord, integerText, hn, ht, hf, hN, hI, hsign]

theorem readWord_null (rest : List Char) :
    readWord ("null".toList ++ rest) = some (.null, rest) := by
  simp [readWord]

theorem readWord_truthText (b : Bool) (rest : List Char) :
    readWord (truthText b ++ rest) = some (.bool b, rest) := by
  cases b <;> simp [readWord, truthText]

theorem readValue_scalar {fuel depth : Nat} {v : Value}
    (hhead : ∀ c ∈ cs.head?, c ≠ '"' ∧ c ≠ '[' ∧ c ≠ '{')
    (h : (readWord cs).or (readNumber cs) = some (v, rest)) :
    readValue (fuel + 1) depth cs = .ok (v, rest) := by
  rw [readValue.eq_7, h]
  · rfl
  · rintro _ rfl
    exact (hhead _ rfl).1 rfl
  · rintro _ rfl -
    exact (hhead _ rfl).2.1 rfl
  · rintro _ _ rfl -
    exact (hhead _ rfl).2.1 rfl
  · rintro _ rfl -
    exact (hhead _ rfl).2.2 rfl
  · rintro _ _ rfl -
    exact (hhead _ rfl).2.2 rfl

end Scalars

/-! ## lists and objects -/

section Nested

variable {before blank cs rest : List Char} {c : Char} {fuel depth : Nat}

theorem Blank.mark_not_mem (h : Blank blank) : mark ∉ blank :=
  fun hmem => absurd (h mark hmem) (by decide)

/-- Blanks in front of a text do not count. -/
theorem Blank.skipBlanks (h : Blank blank) (cs : List Char) :
    skipBlanks (shown (blank ++ cs)) = skipBlanks (shown cs) := by
  rw [shown_append h.mark_not_mem, Json.skipBlanks, List.dropWhile_append_of_pos h, Json.skipBlanks]

theorem skipBlanks_shown_cons (hblank : isBlank c = false) (hmark : c ≠ mark) (cs : List Char) :
    skipBlanks (shown (c :: cs)) = c :: shown cs := by
  rw [shown_cons_of_ne hmark, skipBlanks, List.dropWhile_cons, hblank, if_neg (by decide)]

/-- A value starts with a character that neither is a blank nor closes anything. -/
theorem Written.text_eq_cons (w : Written) (hw : w.Valid) :
    ∃ c cs, w.text = c :: cs ∧ isBlank c = false ∧ c ≠ mark ∧ c ≠ ']' ∧ c ≠ '}' := by
  match w with
  | .null => exact ⟨'n', _, rfl, by decide⟩
  | .bool true => exact ⟨'t', _, rfl, by decide⟩
  | .bool false => exact ⟨'f', _, rfl, by decide⟩
  | .integer true _ => exact ⟨'-', _, rfl, by decide⟩
  | .integer false ds =>
    obtain ⟨d, ds', rfl⟩ := List.exists_cons_of_ne_nil hw.ne_nil
    have hdigit := hw.digits d List.mem_cons_self
    have hne (c : Char) (hc : c.isDigit = false) : d ≠ c := by
      rintro rfl
      rw [hdigit] at hc
      cases hc
    refine ⟨d, ds', rfl, ?_, hne _ (by decide), hne _ (by decide), hne _ (by decide)⟩
    simp [isBlank, hne ' ' (by decide), hne '\t' (by decide), hne '\n' (by decide),
      hne '\r' (by decide)]
  | .string _ => exact ⟨'"', _, rfl, by decide⟩
  | .emptyList _ | .list _ => exact ⟨'[', _, rfl, by decide⟩
  | .emptyObject _ | .object _ => exact ⟨'{', _, rfl, by decide⟩

theorem Written.skipBlanks_text (w : Written) (hw : w.Valid) (cs : List Char) :
    skipBlanks (shown (w.text ++ cs)) = shown (w.text ++ cs) := by
  obtain ⟨c, cs', htext, hblank, hmark, -⟩ := w.text_eq_cons hw
  rw [htext, List.cons_append, skipBlanks_shown_cons hblank hmark, shown_cons_of_ne hmark]

/-- Items start like the first of them. -/
theorem WrittenItems.skipBlanks_text (items : WrittenItems) (hitems : items.Valid)
    (cs : List Char) : ∃ c cs', skipBlanks (shown (items.text ++ cs)) = c :: cs' ∧ c ≠ ']' := by
  have hfirst {before : List Char} {v : Written} (hbefore : Blank before) (hv : v.Valid)
      (cs : List Char) :
      ∃ c cs', skipBlanks (shown (before ++ (v.text ++ cs))) = c :: cs' ∧ c ≠ ']' := by
    obtain ⟨c, cs', htext, hblank, hmark, hc, -⟩ := v.text_eq_cons hv
    exact ⟨c, _, by
      rw [hbefore.skipBlanks, htext, List.cons_append, skipBlanks_shown_cons hblank hmark], hc⟩
  cases items with
  | last before v after =>
    simpa only [text, List.append_assoc] using hfirst hitems.1 hitems.2.1 _
  | more before v after rest =>
    simpa only [text, List.append_assoc] using hfirst hitems.1 hitems.2.1 _

theorem readValue_list (h : skipBlanks cs = c :: rest) (hc : c ≠ ']') :
    readValue (fuel + 1) (depth + 1) ('[' :: cs) =
      (readItems fuel depth (c :: rest)).map fun r => (.list r.1, r.2) := by
  rw [readValue.eq_4, h]
  split
  · next heq => exact absurd (List.cons.inj heq).1 hc
  · rfl

theorem readValue_object (h : skipBlanks cs = c :: rest) (hc : c ≠ '}') :
    readValue (fuel + 1) (depth + 1) ('{' :: cs) =
      (readMembers fuel depth [] (c :: rest)).map fun r => (.map r.1, r.2) := by
  rw [readValue.eq_6, h]
  split
  · next heq => exact absurd (List.cons.inj heq).1 hc
  · rfl

theorem Name.Valid.skipBlanks_text {name : Name} (hname : name.Valid) (cs : List Char) :
    skipBlanks (shown (name.text ++ cs)) =
      '"' :: shown (inside name.pieces ++ '"' :: (name.gap ++ ':' :: (name.lead ++ cs))) := by
  rw [Name.text, List.append_assoc, hname.before.skipBlanks, literal]
  simp only [List.cons_append, List.append_assoc, List.nil_append]
  exact skipBlanks_shown_cons (by decide) (by decide) _

/-- Members start with a quote. -/
theorem WrittenMembers.skipBlanks_text (members : WrittenMembers) (hmembers : members.Valid)
    (cs : List Char) : ∃ c cs', skipBlanks (shown (members.text ++ cs)) = c :: cs' ∧ c ≠ '}' := by
  cases members with
  | last name v after =>
    rw [text, List.append_assoc, hmembers.1.skipBlanks_text]
    exact ⟨_, _, rfl, by decide⟩
  | more name v after rest =>
    rw [text, List.append_assoc, hmembers.1.skipBlanks_text]
    exact ⟨_, _, rfl, by decide⟩

/-- The reading of a member: its name, its value, and what to do with the rest. -/
theorem readMembers_name {name : Name} {w : Written} {after : List Char} {closer : Char}
    {es : List (Value × Value)} (hname : name.Valid) (hw : w.Valid) (hafter : Blank after)
    (hcloser : isBlank closer = false) (hmark : closer ≠ mark)
    (hread : readValue fuel depth (shown (w.text ++ (after ++ closer :: rest))) =
      .ok (w.value, shown (after ++ closer :: rest))) :
    readMembers (fuel + 1) depth es
        (skipBlanks (shown (name.text ++ (w.text ++ (after ++ closer :: rest))))) =
      match closer :: shown rest with
      | '}' :: rest => .ok (Value.writeEntry es (.str (meaning name.pieces)) w.value, rest)
      | ',' :: rest =>
        readMembers fuel depth (Value.writeEntry es (.str (meaning name.pieces)) w.value)
          (skipBlanks rest)
      | _ => .error .malformed := by
  have hmeaning : String.ofList (shown (name.pieces.map Piece.char)) = meaning name.pieces := by
    rw [meaning, ← toList_ofChars, String.ofList_toList]
  rw [hname.skipBlanks_text, readMembers.eq_2, readString_inside hname.pieces]
  simp only [expected, bind, Except.bind]
  rw [hname.gap.skipBlanks, skipBlanks_shown_cons (by decide) (by decide)]
  simp only
  rw [hname.lead.skipBlanks, w.skipBlanks_text hw, hread]
  simp only
  rw [hafter.skipBlanks, skipBlanks_shown_cons hcloser hmark, hmeaning]
  rfl

end Nested

/-! ## values -/

theorem delimited_of_blank {after : List Char} (hafter : Blank after) {closer : Char}
    (hcloser : closer = ',' ∨ closer = ']' ∨ closer = '}') (rest : List Char) :
    Delimited (after ++ closer :: rest) := by
  intro c hc
  cases after with
  | nil =>
    cases hc
    exact .inr hcloser
  | cons a after =>
    cases hc
    exact .inl (hafter c List.mem_cons_self)

/-- A word is read back at the front of a text. -/
theorem Written.readValue_word {w : Written} {fuel depth : Nat} {rest : List Char} (hw : w.Valid)
    (hword : w.isWord) (hrest : Delimited rest) :
    Json.readValue (fuel + 1) depth (shown (w.text ++ rest)) = .ok (w.value, shown rest) := by
  have hmark : mark ∉ w.text := fun hmem =>
    absurd (w.of_mem_word (p := (· != mark)) hw hword (by decide) _ hmem) (by decide)
  have hhead : ∀ c ∈ (w.text ++ shown rest).head?, c ≠ '"' ∧ c ≠ '[' ∧ c ≠ '{' := by
    obtain ⟨d, ds, htext, -⟩ := w.text_eq_cons hw
    have hd := w.of_mem_word (p := fun c => c != '"' && c != '[' && c != '{') hw hword (by decide)
      d (htext ▸ List.mem_cons_self)
    intro c hc
    rw [htext] at hc
    cases hc
    simpa [and_assoc] using hd
  have hshown : Delimited (shown rest) := by
    intro c hc
    rw [head?_shown] at hc
    exact hrest c hc
  rw [shown_append hmark]
  refine readValue_scalar hhead ?_
  match w with
  | .null =>
    rw [Written.text, readWord_null]
    rfl
  | .bool b =>
    rw [Written.text, readWord_truthText]
    rfl
  | .integer negative ds =>
    rw [Written.text, readWord_integer hw, Option.none_or, readNumber_integer hw hshown]
    rfl

mutual

/-- A value is read back at the front of a text. -/
theorem Written.readValue (w : Written) (hw : w.Valid) (fuel depth : Nat) (rest : List Char)
    (hfuel : w.text.length ≤ fuel) (hdepth : w.depth ≤ depth) (hrest : Delimited rest) :
    Json.readValue fuel depth (shown (w.text ++ rest)) = .ok (w.value, shown rest) := by
  obtain ⟨fuel, rfl⟩ : ∃ n, fuel = n + 1 := by
    obtain ⟨c, cs, htext, -⟩ := w.text_eq_cons hw
    rw [htext] at hfuel
    exact ⟨fuel - 1, by simp only [List.length_cons] at hfuel; omega⟩
  match w with
  | .null | .bool _ | .integer _ _ => exact Written.readValue_word hw rfl hrest
  | .string ps =>
    rw [Written.text, literal, List.append_assoc, List.singleton_append, List.cons_append,
      shown_cons_of_ne (by decide), readValue.eq_2, readString_inside hw, Written.value, meaning,
      ← String.ofList_toList (s := ofChars _), toList_ofChars]
    rfl
  | .emptyList blank =>
    obtain ⟨depth, rfl⟩ := Nat.exists_eq_add_of_le' (Nat.le_trans (Nat.le_add_left 1 _) hdepth)
    rw [Written.text, List.cons_append, List.append_assoc, List.singleton_append,
      shown_cons_of_ne (by decide), readValue.eq_4, Blank.skipBlanks hw,
      skipBlanks_shown_cons (by decide) (by decide)]
    rfl
  | .emptyObject blank =>
    obtain ⟨depth, rfl⟩ := Nat.exists_eq_add_of_le' (Nat.le_trans (Nat.le_add_left 1 _) hdepth)
    rw [Written.text, List.cons_append, List.append_assoc, List.singleton_append,
      shown_cons_of_ne (by decide), readValue.eq_6, Blank.skipBlanks hw,
      skipBlanks_shown_cons (by decide) (by decide)]
    rfl
  | .list items =>
    obtain ⟨depth, rfl⟩ := Nat.exists_eq_add_of_le' (Nat.le_trans (Nat.le_add_left 1 _) hdepth)
    obtain ⟨c, cs, hhead, hc⟩ := items.skipBlanks_text hw (']' :: rest)
    have hitems := items.readItems hw fuel depth rest
      (by simp only [Written.text, List.length_cons, List.length_append] at hfuel; omega)
      (by simp only [Written.depth] at hdepth; omega)
    rw [Written.text, List.cons_append, List.append_assoc, List.singleton_append,
      shown_cons_of_ne (by decide), readValue_list hhead hc, ← hhead, hitems]
    rfl
  | .object members =>
    obtain ⟨depth, rfl⟩ := Nat.exists_eq_add_of_le' (Nat.le_trans (Nat.le_add_left 1 _) hdepth)
    obtain ⟨c, cs, hhead, hc⟩ := members.skipBlanks_text hw ('}' :: rest)
    have hmembers := members.readMembers hw fuel depth [] rest
      (by simp only [Written.text, List.length_cons, List.length_append] at hfuel; omega)
      (by simp only [Written.depth] at hdepth; omega)
    rw [Written.text, List.cons_append, List.append_assoc, List.singleton_append,
      shown_cons_of_ne (by decide), readValue_object hhead hc, ← hhead, hmembers]
    rfl

/-- Items are read back up to the closing bracket. -/
theorem WrittenItems.readItems (items : WrittenItems) (hitems : items.Valid) (fuel depth : Nat)
    (rest : List Char) (hfuel : items.text.length < fuel) (hdepth : items.depth ≤ depth) :
    Json.readItems fuel depth (skipBlanks (shown (items.text ++ ']' :: rest))) =
      .ok (items.values, shown rest) := by
  obtain ⟨fuel, rfl⟩ : ∃ n, fuel = n + 1 := ⟨fuel - 1, by omega⟩
  match items with
  | .last before v after =>
    obtain ⟨hbefore, hv, hafter⟩ := hitems
    have hread := v.readValue hv fuel depth _
      (by simp only [WrittenItems.text, List.length_append] at hfuel; omega)
      (by simpa only [WrittenItems.depth] using hdepth)
      (delimited_of_blank hafter (.inr (.inl rfl)) rest)
    rw [WrittenItems.text, List.append_assoc, List.append_assoc, hbefore.skipBlanks,
      v.skipBlanks_text hv, readItems.eq_2, hread]
    simp only [bind, Except.bind]
    rw [hafter.skipBlanks, skipBlanks_shown_cons (by decide) (by decide)]
    rfl
  | .more before v after items =>
    obtain ⟨hbefore, hv, hafter, hitems⟩ := hitems
    have hread := v.readValue hv fuel depth _
      (by simp only [WrittenItems.text, List.length_append] at hfuel; omega)
      (by simp only [WrittenItems.depth] at hdepth; omega)
      (delimited_of_blank hafter (.inl rfl) (items.text ++ ']' :: rest))
    have hitems := items.readItems hitems fuel depth rest
      (by simp only [WrittenItems.text, List.length_append, List.length_cons] at hfuel; omega)
      (by simp only [WrittenItems.depth] at hdepth; omega)
    simp only [WrittenItems.text, List.append_assoc, List.cons_append]
    rw [hbefore.skipBlanks, v.skipBlanks_text hv, readItems.eq_2, hread]
    simp only [bind, Except.bind]
    rw [hafter.skipBlanks, skipBlanks_shown_cons (by decide) (by decide)]
    simp only
    rw [hitems]
    rfl

/-- Members are read back up to the closing brace, and added to those before. -/
theorem WrittenMembers.readMembers (members : WrittenMembers) (hmembers : members.Valid)
    (fuel depth : Nat) (es : List (Value × Value)) (rest : List Char)
    (hfuel : members.text.length < fuel) (hdepth : members.depth ≤ depth) :
    Json.readMembers fuel depth es (skipBlanks (shown (members.text ++ '}' :: rest))) =
      .ok (Value.writeMembers es members.entries, shown rest) := by
  obtain ⟨fuel, rfl⟩ : ∃ n, fuel = n + 1 := ⟨fuel - 1, by omega⟩
  match members with
  | .last name v after =>
    obtain ⟨hname, hv, hafter⟩ := hmembers
    have hread := v.readValue hv fuel depth _
      (by simp only [WrittenMembers.text, List.length_append] at hfuel; omega)
      (by simpa only [WrittenMembers.depth] using hdepth)
      (delimited_of_blank hafter (.inr (.inr rfl)) rest)
    rw [WrittenMembers.text, List.append_assoc, List.append_assoc,
      readMembers_name hname hv hafter (by decide) (by decide) hread]
    rfl
  | .more name v after members =>
    obtain ⟨hname, hv, hafter, hmembers⟩ := hmembers
    have hread := v.readValue hv fuel depth _
      (by simp only [WrittenMembers.text, List.length_append] at hfuel; omega)
      (by simp only [WrittenMembers.depth] at hdepth; omega)
      (delimited_of_blank hafter (.inl rfl) (members.text ++ '}' :: rest))
    have hrest := members.readMembers hmembers fuel depth
      (Value.writeEntry es (.str (meaning name.pieces)) v.value) rest
      (by simp only [WrittenMembers.text, List.length_append, List.length_cons] at hfuel; omega)
      (by simp only [WrittenMembers.depth] at hdepth; omega)
    simp only [WrittenMembers.text, List.append_assoc, List.cons_append]
    rw [readMembers_name hname hv hafter (by decide) (by decide) hread]
    exact hrest

end

/-- A text that the grammar allows has the value that is written. -/
theorem WrittenText.parse?_text (t : WrittenText) (ht : t.Valid) :
    Json.parse? (ofChars t.text) = some t.content.value := by
  have hskip : skipBlanks (shown t.text) = shown (t.content.text ++ t.after) := by
    rw [WrittenText.text, ht.before.skipBlanks, t.content.skipBlanks_text ht.content]
  have hlength : t.content.text.length ≤ (shown t.text).length := by
    refine Nat.le_trans ?_ (length_le_length_shown t.text)
    simp only [WrittenText.text, List.length_append]
    omega
  have hdelimited : Delimited t.after := fun c hc =>
    .inl (ht.after c (List.mem_of_mem_head? hc))
  have hread := t.content.readValue ht.content (2 * (shown t.text).length + 1)
    (shown t.text).length t.after (by omega) (Nat.le_trans t.content.depth_le hlength) hdelimited
  have hafter : skipBlanks (shown t.after) = [] := by
    rw [← List.append_nil t.after, ht.after.skipBlanks]
    rfl
  rw [Json.parse?, Json.parse, ← String.length_toList, toList_ofChars, hskip, hread]
  simp only [bind, Except.bind]
  rw [hafter]
  rfl

end Json

end ChainApi
