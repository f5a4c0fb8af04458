import ChainApi.Proofs.Json.Reading
import ChainApi.Proofs.Yaml.Common
import ChainApi.Proofs.Yaml.Scalars

/-!
# ChainApi.Proofs.Yaml.Words

How the strings and words of a JSON text are read as scalars.

* `Cursor.quoted_literal` — a string literal is a quoted scalar;
* `Cursor.plain_word` — a word is a plain scalar, together with the blanks after it.
-/

namespace ChainApi

/-- The text of characters is the text of the points that they are. -/
theorem Text.ofPoints_chars (cs : List Char) : ofPoints (cs.map .char) = ofChars cs := by
  rw [← String.toList_inj, toList_ofChars, ofPoints, String.toList_ofList, shown]

namespace Yaml.Cursor

open Json

variable {c c' c₁ : Cursor} {x y : Char} {cs bs X : List Char} {fuel : Nat}
  {ps : List Text.Point} {p : Piece} {pieces : List Piece}

/-! ## moving on -/

theorem advance_add (c : Cursor) (m n : Nat) : c.advance (m + n) = (c.advance m).advance n := by
  induction m generalizing c with
  | zero => rw [Nat.zero_add]; rfl
  | succ m ih => rw [Nat.succ_add, advance, advance, ih]

theorem rest_advance_of_append (h : c.rest = cs ++ X) : (c.advance cs.length).rest = X := by
  rw [rest_advance, h, List.drop_left]

/-- Characters that end no line are counted, and the line stays the same. -/
theorem advance_of_not_break (h : c.rest = cs ++ X) (hcs : ∀ x ∈ cs, isBreak x = false) :
    (c.advance cs.length).index = c.index + cs.length ∧ (c.advance cs.length).line = c.line := by
  induction cs generalizing c with
  | nil => exact ⟨rfl, rfl⟩
  | cons x cs ih =>
    have hnext : c.next.rest = cs ++ X := by rw [rest_next, h]; rfl
    have hx := hcs x List.mem_cons_self
    have hindex : c.next.index = c.index + 1 ∧ c.next.line = c.line := by
      simp only [next, h, List.cons_append, hx]
      exact ⟨rfl, rfl⟩
    obtain ⟨hi, hl⟩ := ih hnext fun x hx => hcs x (List.mem_cons_of_mem _ hx)
    rw [List.length_cons, advance, hi, hl, hindex.1, hindex.2]
    exact ⟨by omega, rfl⟩

theorem peek_of_rest (h : c.rest = x :: X) : c.peek = some x := by rw [peek, h]; rfl

theorem at?_of_rest (h : c.rest = x :: X) : c.at? y = (x == y) := by
  rw [at?, peek_of_rest h]
  rfl

theorem lineBreak?_eq_none (h : c.rest = x :: X) (hx : isBreak x = false) :
    c.lineBreak? = none := by
  rw [lineBreak?, h]
  simp only [hx]
  rfl

theorem lineBreak?_newline (h : c.rest = '\n' :: X) : c.lineBreak? = some ('\n', c.next) := by
  rw [lineBreak?, h]
  rfl

theorem skipSpaces_of_ne (hX : ∀ x ∈ c.rest.head?, x ≠ ' ') : c.skipSpaces = c := by
  have hrun : c.run (· == ' ') = [] := by
    rw [Cursor.run]
    cases hrest : c.rest with
    | nil => rfl
    | cons x X => exact List.takeWhile_cons_of_neg (by simpa using hX x (by rw [hrest]; rfl))
  rw [skipSpaces, skipWhile, hrun]
  rfl

theorem skipSpaces_space (h : c.rest = ' ' :: X) :
    c.skipSpaces = c.next.skipSpaces := by
  simp [skipSpaces, skipWhile, Cursor.run, h, advance]

/-! ## quoted scalars -/

/-- The closing quote. -/
theorem quotedPoints_end (h : c.rest = '"' :: X) :
    quotedPoints true (fuel + 1) c = .ok ([], c.next) := by
  rw [quotedPoints, peek_of_rest h]
  simp only [if_true]
  rw [if_neg (by decide), if_neg (by simp)]
  show (if (true && c.at? '"') = true then _ else _) = _
  rw [at?_of_rest h]
  rfl

/-- A character that stands for itself. -/
theorem quotedPoints_raw (h : c.rest = x :: X) (hblank : isBlank x = false)
    (hbreak : isBreak x = false) (hquote : x ≠ '"') (hescape : x ≠ '\\')
    (hrest : quotedPoints true fuel c.next = .ok (ps, c')) :
    quotedPoints true (fuel + 1) c = .ok (.char x :: ps, c') := by
  rw [quotedPoints, peek_of_rest h]
  simp only [if_true, hblank, hbreak, hquote, hescape, Bool.or_self, decide_false,
    Bool.and_false, Bool.false_and, Bool.false_eq_true, if_false]
  show (quotedPoints true fuel c.next >>= fun r => Except.ok ([.char x] ++ r.1, r.2)) = _
  rw [hrest]
  rfl

/-- An escape. -/
theorem quotedPoints_escape {chunk : List Text.Point} (h : c.rest = '\\' :: X)
    (hchunk : escaped fuel c.next = .ok (chunk, c₁)) (hne : chunk ≠ [])
    (hrest : quotedPoints true fuel c₁ = .ok (ps, c')) :
    quotedPoints true (fuel + 1) c = .ok (chunk ++ ps, c') := by
  have hempty : chunk.isEmpty = false := by simpa using hne
  rw [quotedPoints, peek_of_rest h]
  simp only [if_true]
  rw [if_neg (by decide), if_neg (by simp), if_neg (by decide), if_pos (by decide), hchunk]
  show (if (chunk.isEmpty && c₁.at? '"') = true then _ else _) = _
  rw [hempty, Bool.false_and, if_neg Bool.false_ne_true, hrest]
  rfl

/-- Blanks up to a character that is none and ends no line. -/
theorem quotedPoints_blanks (h : c.rest = ' ' :: (bs ++ y :: X)) (hbs : ∀ x ∈ bs, x = ' ')
    (hblank : isBlank y = false) (hbreak : isBreak y = false)
    (hrest : quotedPoints true fuel (c.advance (' ' :: bs).length) = .ok (ps, c')) :
    quotedPoints true (fuel + 1) c = .ok (.char ' ' :: (bs.map .char ++ ps), c') := by
  have hrun : c.run isBlank = ' ' :: bs := by
    rw [run, h, ← List.cons_append, List.takeWhile_append_of_pos, List.takeWhile_cons_of_neg,
      List.append_nil]
    · rw [hblank]; exact Bool.false_ne_true
    · intro x hx
      rcases List.mem_cons.1 hx with rfl | hx
      · rfl
      · rw [hbs x hx]; rfl
  have hafter : (c.advance (' ' :: bs).length).rest = y :: X := rest_advance_of_append h
  have hspaces : quotedSpaces fuel c = .ok (' ' :: bs, c.advance (' ' :: bs).length) := by
    rw [quotedSpaces, hrun]
    simp only [peek_of_rest hafter, lineBreak?_eq_none hafter hbreak]
  rw [quotedPoints, peek_of_rest h]
  simp only
  rw [if_pos (by decide), hspaces]
  show (quotedPoints true fuel (c.advance (' ' :: bs).length) >>= fun r =>
    Except.ok ((' ' :: bs).map Text.Point.char ++ r.1, r.2)) = _
  rw [hrest]
  rfl

/-- An escape of one letter stands for the same character in both languages. -/
theorem escape?_of_json {letter x : Char} (h : Json.escape? letter = some x) :
    escape? letter = some x := by
  unfold Json.escape? at h
  split at h <;> cases h <;> rfl

theorem escaped_short {letter : Char} (h : c.rest = letter :: X)
    (hletter : Json.escape? letter = some x) : escaped fuel c = .ok ([.char x], c.next) := by
  rw [escaped, peek_of_rest h]
  simp only [escape?_of_json hletter]

/-- Four digits give the number of a character. -/
theorem escaped_numeric {d e f g : Char} (h : c.rest = 'u' :: d :: e :: f :: g :: X)
    (hx : hex4? d e f g = some x.toNat) : escaped fuel c = .ok ([.char x], c.advance 5) := by
  have hvalue : hexValue? [d, e, f, g] = some x.toNat := by
    rw [← hx]
    simp only [hexValue?, hex4?, List.foldlM_cons, List.foldlM_nil]
    cases hexDigit? d <;> cases hexDigit? e <;> cases hexDigit? f <;> cases hexDigit? g <;>
      simp
  have hnext : c.next.rest = d :: e :: f :: g :: X := by rw [rest_next, h]; rfl
  have hpoint : point x.toNat = .ok (.char x) := by
    have hvalid : x.toNat.isValidChar := x.valid
    rw [point, Text.Point.ofNat?, if_pos hvalid, Char.ofNat_toNat]
  rw [escaped, peek_of_rest h]
  simp only [escape?, escapeLength?, numericEscape, hnext, List.take, hvalue, hpoint]
  rfl

/-- The only blank that stands for itself is the space. -/
theorem isBlank_raw (hp : (Piece.raw x).Valid) (hspace : Piece.raw x ≠ .raw ' ') :
    isBlank x = false := by
  have hctl : 0x20 ≤ x.toNat := hp.1
  simp only [isBlank, Bool.or_eq_false_iff, beq_eq_false_iff_ne]
  refine ⟨fun heq => hspace (heq ▸ rfl), ?_⟩
  rintro rfl
  exact absurd hctl (by decide)

/-- One character of a string literal that is no blank. -/
theorem quotedPoints_piece (hp : p.Valid) (hcommon : p.Common) (hspace : p ≠ .raw ' ')
    (h : c.rest = p.text ++ X)
    (hrest : quotedPoints true fuel (c.advance p.text.length) = .ok (ps, c')) :
    quotedPoints true (fuel + 1) c = .ok (.char p.char :: ps, c') := by
  match p with
  | .raw x =>
    exact quotedPoints_raw h (isBlank_raw hp hspace) hcommon.2 hp.2.1 hp.2.2 hrest
  | .short letter x =>
    have hnext : c.next.rest = letter :: X := by rw [rest_next, h]; rfl
    exact quotedPoints_escape h (escaped_short hnext hp) (by simp) hrest
  | .numeric d e f g x =>
    have hnext : c.next.rest = 'u' :: d :: e :: f :: g :: X := by rw [rest_next, h]; rfl
    exact quotedPoints_escape h (escaped_numeric hnext hp) (by simp) hrest
  | .pair .. => exact hcommon.elim

/-- A piece that is no blank starts with a character that is none and ends no line. -/
theorem exists_head (hp : p.Valid) (hcommon : p.Common) (hspace : p ≠ .raw ' ') :
    ∃ y ys, p.text = y :: ys ∧ isBlank y = false ∧ isBreak y = false := by
  match p with
  | .raw x => exact ⟨x, [], rfl, isBlank_raw hp hspace, hcommon.2⟩
  | .short .. | .numeric .. => exact ⟨'\\', _, rfl, by decide, by decide⟩
  | .pair .. => exact hcommon.elim

/-- The blanks at the front of a string literal. -/
theorem exists_blanks (pieces : List Piece) :
    ∃ n rest, pieces = List.replicate n (.raw ' ') ++ rest ∧ rest.head? ≠ some (.raw ' ') := by
  induction pieces with
  | nil => exact ⟨0, [], rfl, by simp⟩
  | cons p ps ih =>
    by_cases hspace : p = .raw ' '
    · obtain ⟨n, rest, hps, hrest⟩ := ih
      exact ⟨n + 1, rest, by rw [hps, hspace]; rfl, hrest⟩
    · exact ⟨0, p :: ps, rfl, by simpa using hspace⟩

/-- What follows the blanks at the front is no blank, and ends no line. -/
theorem exists_head_inside (hp : ∀ p ∈ pieces, p.Valid) (hcommon : ∀ p ∈ pieces, p.Common)
    (hspace : pieces.head? ≠ some (.raw ' ')) (X : List Char) :
    ∃ y Y, inside pieces ++ '"' :: X = y :: Y ∧ isBlank y = false ∧ isBreak y = false := by
  cases pieces with
  | nil => exact ⟨'"', X, rfl, by decide, by decide⟩
  | cons p ps =>
    obtain ⟨y, ys, htext, hblank, hbreak⟩ := exists_head (hp p List.mem_cons_self)
      (hcommon p List.mem_cons_self) fun heq => hspace (congrArg some heq)
    exact ⟨y, ys ++ (inside ps ++ '"' :: X), by simp [inside, htext], hblank, hbreak⟩

theorem length_text_pos (p : Piece) : 0 < p.text.length := by
  cases p <;> exact Nat.zero_lt_succ _

/-- The characters of a string literal up to its closing quote, which is passed over. -/
theorem quotedPoints_inside (pieces : List Piece) (hp : ∀ p ∈ pieces, p.Valid)
    (hcommon : ∀ p ∈ pieces, p.Common) (fuel : Nat) (c : Cursor)
    (h : c.rest = inside pieces ++ '"' :: X) (hfuel : c.rest.length ≤ fuel) :
    quotedPoints true fuel c =
      .ok ((pieces.map Piece.char).map .char, c.advance ((inside pieces).length + 1)) := by
  obtain ⟨fuel, rfl⟩ : ∃ f, fuel = f + 1 :=
    Nat.exists_eq_add_one.2 (by rw [h] at hfuel; simp at hfuel; omega)
  match pieces with
  | [] => exact quotedPoints_end h
  | p :: ps =>
    have hlater : ∀ (qs : List Piece), qs ⊆ ps → (∀ q ∈ qs, q.Valid) ∧ ∀ q ∈ qs, q.Common :=
      fun qs hqs => ⟨fun q hq => hp q (List.mem_cons_of_mem p (hqs hq)),
        fun q hq => hcommon q (List.mem_cons_of_mem p (hqs hq))⟩
    by_cases hspace : p = .raw ' '
    · obtain ⟨n, qs, rfl, hqs⟩ := exists_blanks ps
      have hqs' := hlater qs (List.subset_append_right _ _)
      obtain ⟨y, Y, hY, hblank, hbreak⟩ := exists_head_inside hqs'.1 hqs'.2 hqs X
      have hinside : inside (p :: (List.replicate n (.raw ' ') ++ qs)) =
          (' ' :: List.replicate n ' ') ++ inside qs := by
        rw [hspace]
        simp [inside, Piece.text, List.flatMap_replicate]
      rw [hinside, List.append_assoc] at h
      have hlen := congrArg List.length h
      have hafter := rest_advance_of_append h
      have ih := quotedPoints_inside qs hqs'.1 hqs'.2 fuel _ hafter (by
        rw [hafter]
        simp only [List.length_append, List.length_cons] at hlen hfuel ⊢
        omega)
      rw [hY] at h
      rw [quotedPoints_blanks h (fun x hx => (List.mem_replicate.1 hx).2) hblank hbreak ih,
        ← advance_add, hinside, List.length_append, Nat.add_assoc]
      simp [hspace, Piece.char]
    · have hinside : inside (p :: ps) = p.text ++ inside ps := List.flatMap_cons
      rw [hinside, List.append_assoc] at h
      have hlen := congrArg List.length h
      have hpos := length_text_pos p
      have hafter := rest_advance_of_append h
      have hps := hlater ps (List.Subset.refl ps)
      have ih := quotedPoints_inside ps hps.1 hps.2 fuel _ hafter (by
        rw [hafter]
        simp only [List.length_append] at hlen hfuel ⊢
        omega)
      rw [quotedPoints_piece (hp p List.mem_cons_self) (hcommon p List.mem_cons_self) hspace h ih,
        ← advance_add, hinside, List.length_append, Nat.add_assoc]
      rfl
termination_by pieces.length

/-- A string literal is a quoted scalar. -/
theorem quoted_literal (hp : ∀ p ∈ pieces, p.Valid) (hcommon : ∀ p ∈ pieces, p.Common)
    (h : c.rest = literal pieces ++ X) (hfuel : c.rest.length ≤ fuel) :
    c.quoted true fuel = .ok (meaning pieces, c.advance (literal pieces).length) := by
  have hnext : c.next.rest = inside pieces ++ '"' :: X := by
    rw [rest_next, h]
    simp [literal]
  have hlen : c.next.rest.length ≤ fuel := by
    rw [rest_next, List.length_drop]
    omega
  have hquoted := quotedPoints_inside pieces hp hcommon fuel c.next hnext hlen
  rw [quoted, hquoted]
  show Except.ok (Text.ofPoints _, _) = _
  rw [Text.ofPoints_chars]
  simp [literal, meaning, advance]

/-! ## plain scalars -/

theorem marker_eq_false (h : c.rest = x :: X) (hx : x ≠ y) : c.marker y = false := by
  simp [marker, h, hx]

/-- The characters of words. -/
def isWordChar (x : Char) : Bool :=
  !(isBlank x || isBreak x || isFlowMark x || ":?#\r".toList.contains x || x == Text.mark)

theorem isWordChar_of_mem {w : Written} (hw : w.Valid) (hword : w.isWord) :
    ∀ x ∈ w.text, isWordChar x = true :=
  w.of_mem_word hw hword (by decide)

/-- A word ends at a blank, at the end of a line or at a mark between values. -/
theorem plainWord_append (hcs : ∀ x ∈ cs, isWordChar x = true)
    (hX : ∀ x ∈ X.head?, (isBlank x || isBreak x || isFlowMark x) = true) :
    plainWord true (cs ++ X) = cs := by
  induction cs with
  | nil =>
    cases X with
    | nil => rfl
    | cons x X =>
      have hx := hX x rfl
      rw [List.nil_append, plainWord]
      cases hspace : isBlank x || isBreak x with
      | true => simp
      | false =>
        have hmark : isFlowMark x = true := by simpa [hspace] using hx
        simp [hmark]
  | cons x cs ih =>
    have hx := hcs x List.mem_cons_self
    simp only [isWordChar, Bool.not_eq_true', Bool.or_eq_false_iff] at hx
    obtain ⟨⟨⟨⟨hblank, hbreak⟩, hmark⟩, hother⟩, -⟩ := hx
    have hcolon : x ≠ ':' := by rintro rfl; cases hother
    have hquestion : x ≠ '?' := by rintro rfl; cases hother
    rw [List.cons_append, plainWord, ih fun x hx => hcs x (List.mem_cons_of_mem _ hx)]
    simp [hblank, hbreak, hmark, hcolon, hquestion]

/-- A mark between values is no blank, no comment and no part of a line of marks. -/
theorem isFlowMark_spec (hy : isFlowMark y) :
    y ≠ ' ' ∧ isBreak y = false ∧ y ≠ '#' ∧ y ≠ '-' ∧ y ≠ '.' := by
  have hmem : y ∈ [',', '[', ']', '\x7b', '\x7d'] := by simpa [isFlowMark] using hy
  simp only [List.mem_cons, List.not_mem_nil, or_false] at hmem
  rcases hmem with rfl | rfl | rfl | rfl | rfl <;> decide

/-- No line of marks stands between a word and what follows it. -/
theorem separator_eq_false (hbs : Spaced bs) (hy : isFlowMark y) (h : c.rest = bs ++ y :: X) :
    c.separator = false := by
  have hspec := isFlowMark_spec hy
  rw [separator, Bool.or_eq_false_iff]
  cases bs with
  | nil => exact ⟨marker_eq_false h hspec.2.2.2.1, marker_eq_false h hspec.2.2.2.2⟩
  | cons x bs =>
    rcases hbs x List.mem_cons_self with rfl | rfl <;>
      exact ⟨marker_eq_false h (by decide), marker_eq_false h (by decide)⟩

theorem plainBreaks_spaced (hbs : Spaced bs) (hy : isFlowMark y) (h : c.rest = bs ++ y :: X)
    (hfuel : bs.length ≤ fuel) :
    ∃ breaks c', plainBreaks fuel c = (some breaks, c') ∧ c'.rest = y :: X := by
  have hspec := isFlowMark_spec hy
  induction bs generalizing c fuel with
  | nil =>
    cases fuel with
    | zero => exact ⟨[], c, rfl, h⟩
    | succ fuel =>
      refine ⟨[], c, ?_, h⟩
      have h : c.rest = y :: X := h
      simp [plainBreaks, at?_of_rest h, lineBreak?_eq_none h hspec.2.1, hspec.1]
  | cons x bs ih =>
    obtain ⟨fuel, rfl⟩ : ∃ f, fuel = f + 1 := Nat.exists_eq_add_one.2 (by simp at hfuel; omega)
    have hnext : c.next.rest = bs ++ y :: X := by rw [rest_next, h]; rfl
    have hbs' : Spaced bs := fun x hx => hbs x (List.mem_cons_of_mem _ hx)
    obtain ⟨breaks, c', hrun, hrest⟩ := ih hbs' hnext (Nat.le_of_succ_le_succ hfuel)
    rcases hbs x List.mem_cons_self with rfl | rfl
    · exact ⟨breaks, c', by simp [plainBreaks, at?_of_rest h, hrun], hrest⟩
    · refine ⟨'\n' :: breaks, c', ?_, hrest⟩
      simp [plainBreaks, at?_of_rest h, lineBreak?_newline h, separator_eq_false hbs' hy hnext,
        hrun]

/-- The spaces at the front, and the line feed after them. -/
theorem exists_spaces (hbs : Spaced bs) :
    ∃ n tail, bs = List.replicate n ' ' ++ tail ∧ (tail = [] ∨ ∃ cs, tail = '\n' :: cs) := by
  induction bs with
  | nil => exact ⟨0, [], rfl, .inl rfl⟩
  | cons x bs ih =>
    rcases hbs x List.mem_cons_self with rfl | rfl
    · obtain ⟨n, tail, rfl, htail⟩ := ih fun x hx => hbs x (List.mem_cons_of_mem _ hx)
      exact ⟨n + 1, tail, rfl, htail⟩
    · exact ⟨0, '\n' :: bs, rfl, .inr ⟨bs, rfl⟩⟩

theorem run_spaces (n : Nat) (h : c.rest = List.replicate n ' ' ++ y :: X) (hy : y ≠ ' ') :
    c.run (· == ' ') = List.replicate n ' ' := by
  rw [run, h, List.takeWhile_append_of_pos fun x hx => by simp [(List.mem_replicate.1 hx).2],
    List.takeWhile_cons_of_neg (by simpa using hy), List.append_nil]

/-- What separates a word from what follows it is passed over. -/
theorem plainSpaces_spaced (hbs : Spaced bs) (hy : isFlowMark y) (h : c.rest = bs ++ y :: X)
    (hfuel : bs.length ≤ fuel) :
    ∃ spaces newLine c', plainSpaces fuel c = (spaces, newLine, c') ∧ c'.rest = y :: X := by
  have hspec := isFlowMark_spec hy
  obtain ⟨n, tail, rfl, rfl | ⟨cs, rfl⟩⟩ := exists_spaces hbs
  · rw [List.append_nil] at h
    have hafter := rest_advance_of_append h
    refine ⟨List.replicate n ' ', false, c.advance (List.replicate n ' ').length, ?_, hafter⟩
    rw [plainSpaces, run_spaces n h hspec.1]
    simp only [lineBreak?_eq_none hafter hspec.2.1]
  · rw [List.append_assoc] at h
    have hafter := rest_advance_of_append h
    have hcs : Spaced cs := fun x hx =>
      hbs x (List.mem_append_right _ (List.mem_cons_of_mem _ hx))
    have hnext : (c.advance (List.replicate n ' ').length).next.rest = cs ++ y :: X := by
      rw [rest_next, hafter]
      rfl
    have hlength : cs.length ≤ fuel := by
      simp only [List.length_append, List.length_cons] at hfuel
      omega
    obtain ⟨breaks, c', hrun, hrest⟩ := plainBreaks_spaced hcs hy hnext hlength
    refine ⟨fold '\n' breaks, true, c', ?_, hrest⟩
    rw [plainSpaces, run_spaces n h (by decide)]
    simp only [lineBreak?_newline hafter, separator_eq_false hcs hy hnext, hrun]
    rfl

/-- No word starts with a mark between values. -/
theorem plainWords_mark (hy : isFlowMark y) (h : c.rest = y :: X) (indent : Int)
    (newLine : Bool) : plainWords true indent fuel newLine c = ([], newLine, c) := by
  have hword : plainWord true (y :: X) = [] := by
    exact plainWord_append (List.forall_mem_nil _) (by simp [hy])
  cases fuel with
  | zero => rfl
  | succ fuel => simp [plainWords, h, hword]

/-- A word is a plain scalar, and what separates it from what follows is passed over. -/
theorem plain_word {w : Written} (hw : w.Valid) (hword : w.isWord) (hbs : Spaced bs)
    (hy : isFlowMark y) (h : c.rest = w.text ++ (bs ++ y :: X)) (hfuel : c.rest.length ≤ fuel)
    (indent : Int) :
    ∃ newLine c', c.plain true indent fuel = (String.ofList w.text, newLine, c') ∧
      c'.rest = y :: X := by
  have hchars := isWordChar_of_mem hw hword
  have hstop : ∀ x ∈ (bs ++ y :: X).head?, (isBlank x || isBreak x || isFlowMark x) = true := by
    cases bs with
    | nil => simp [hy]
    | cons x bs => rcases hbs x List.mem_cons_self with rfl | rfl <;> simp [isBlank, isBreak]
  have hplain := plainWord_append hchars hstop
  have hmark : Text.mark ∉ w.text := fun hmem => absurd (hchars _ hmem) (by decide)
  have hofChars : Text.ofChars w.text = String.ofList w.text := by
    rw [Text.ofChars, if_neg (by simpa using hmark)]
  obtain ⟨x, xs, htext, -⟩ := w.text_eq_cons hw
  have hcomment : x ≠ '#' := by
    rintro rfl
    exact absurd (hchars '#' (by rw [htext]; exact List.mem_cons_self)) (by decide)
  obtain ⟨fuel, rfl⟩ : ∃ f, fuel = f + 1 :=
    Nat.exists_eq_add_one.2 (by rw [h, htext] at hfuel; simp at hfuel; omega)
  have hafter := rest_advance_of_append h
  have hlength : bs.length ≤ fuel := by
    rw [h, htext] at hfuel
    simp only [List.length_append, List.length_cons] at hfuel
    omega
  obtain ⟨spaces, newLine, c', hspaces, hrest⟩ := plainSpaces_spaced hbs hy hafter hlength
  have hwords : plainWords true indent (fuel + 1) false c = (w.text, newLine, c') := by
    have hat : c.at? '#' = false := by
      rw [htext] at h
      simpa [at?_of_rest h] using hcomment
    have hempty : w.text.isEmpty = false := by rw [htext]; rfl
    rw [plainWords, hat]
    simp only [Bool.false_eq_true, if_false, h, hplain, hempty, hspaces,
      plainWords_mark hy hrest]
    split <;> rfl
  exact ⟨newLine, c', by rw [plain, hwords, ← hofChars], hrest⟩

end Yaml.Cursor

end ChainApi
