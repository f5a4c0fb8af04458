import ChainApi.Lists

/-!
# ChainApi.Text.Point

Texts that may hold halves of surrogate pairs.  Escapes and loosely encoded bytes
can name such a half, for which there is no character, so a text holds it as a
mark and a character of the private use area.  Where a text holds these two of
itself, a character between them keeps them apart; every other text stands for
itself.

* `points`, `write` — what a text is made of, and the text of that;
* `points_write` — nothing is lost in a text;
* `points_of_not_mem` — a text without a mark stands for itself;
* `chars?`, `pointsOf` — the characters of a text, and its points;
* `AtMost` — texts in the order of their code points.
-/

namespace ChainApi.Text

/-- The number of halves. -/
def halfCount : Nat := 2048

/-- What a text is made of. -/
inductive Point where
  | char (c : Char)
  /-- The half of a surrogate pair with the code point U+D800 plus `k`. -/
  | half (k : Fin halfCount)
  deriving DecidableEq, Repr

/-- The point with a number, if there is one. -/
def Point.ofNat? (n : Nat) : Option Point :=
  if n.isValidChar then some (.char (Char.ofNat n))
  else if h : n - 0xD800 < halfCount then
    if 0xD800 ≤ n then some (.half ⟨n - 0xD800, h⟩) else none
  else none

/-- The number of a point. -/
def Point.toNat : Point → Nat
  | char c => c.toNat
  | half k => 0xD800 + k

/-- What announces a half. -/
def mark : Char := Char.ofNat 0x10FFFE

/-- The character that stands for a half after a mark. -/
def halfChar (k : Nat) : Char := Char.ofNat (0xE000 + k)

/-- Would a mark in front of this character be misread? -/
def isAfterMark (c : Char) : Bool := 0xE000 ≤ c.toNat && c.toNat ≤ 0xE000 + halfCount

/-- What a text is made of. -/
def points : List Char → List Point
  | [] => []
  | [c] => [.char c]
  | c :: d :: cs =>
    if c = mark then
      if h : d.toNat - 0xE000 < halfCount then
        if 0xE000 ≤ d.toNat then .half ⟨d.toNat - 0xE000, h⟩ :: points cs
        else .char c :: points (d :: cs)
      else if d = halfChar halfCount then .char c :: points cs
      else .char c :: points (d :: cs)
    else .char c :: points (d :: cs)

/-- A character in front of a text. -/
def consChar (c : Char) (cs : List Char) : List Char :=
  if c = mark ∧ cs.head?.any isAfterMark then c :: halfChar halfCount :: cs else c :: cs

/-- The text that is made of some points. -/
def write : List Point → List Char
  | [] => []
  | .char c :: ps => consChar c (write ps)
  | .half k :: ps => mark :: halfChar k :: write ps

/-- The text of a list of points. -/
def ofPoints (ps : List Point) : String := String.ofList (write ps)

/-- The text of a list of characters. -/
def ofChars (cs : List Char) : String :=
  if cs.contains mark then ofPoints (cs.map .char) else String.ofList cs

theorem toNat_halfChar {k : Nat} (h : k ≤ halfCount) : (halfChar k).toNat = 0xE000 + k := by
  have hv : (0xE000 + k).isValidChar := by
    simp only [halfCount] at h
    right
    omega
  unfold halfChar Char.ofNat
  rw [dif_pos hv]
  rfl

theorem points_cons_of_ne {c : Char} (h : c ≠ mark) (cs : List Char) :
    points (c :: cs) = .char c :: points cs := by
  cases cs <;> simp [points, h]

/-- A mark announces nothing in front of a character that could not be misread. -/
theorem points_mark_cons {d : Char} (h : isAfterMark d = false) (cs : List Char) :
    points (mark :: d :: cs) = .char mark :: points (d :: cs) := by
  have hrange : ¬ (0xE000 ≤ d.toNat ∧ d.toNat ≤ 0xE000 + halfCount) := by
    simpa [isAfterMark] using h
  have hne : d ≠ halfChar halfCount := by
    rintro rfl
    rw [toNat_halfChar (Nat.le_refl _)] at hrange
    omega
  rw [points, if_pos rfl, if_neg hne]
  split
  · rw [if_neg (by omega)]
  · rfl

/-- Nothing is lost in a text. -/
theorem points_write (ps : List Point) : points (write ps) = ps := by
  induction ps with
  | nil => rfl
  | cons p ps ih =>
    cases p with
    | half k =>
      have hk := toNat_halfChar (Nat.le_of_lt k.isLt)
      simp only [write, points, if_true, hk, Nat.le_add_right, Nat.add_sub_cancel_left,
        k.isLt, dite_true, ih]
    | char c =>
      rw [write, consChar]
      split
      · next h =>
        have hk := toNat_halfChar (Nat.le_refl halfCount)
        simp [points, h.1, hk, ih]
      · next h =>
        by_cases hc : c = mark
        · subst hc
          cases hw : write ps with
          | nil => rw [points, ← ih, hw, points]
          | cons d ds =>
            have hd : isAfterMark d = false := by simpa [hw] using h
            rw [points_mark_cons hd, ← hw, ih]
        · rw [points_cons_of_ne hc, ih]

/-- A text without a mark stands for itself. -/
theorem points_of_not_mem {cs : List Char} (h : mark ∉ cs) : points cs = cs.map .char := by
  induction cs with
  | nil => rfl
  | cons c cs ih =>
    simp only [List.mem_cons, not_or] at h
    rw [points_cons_of_ne (Ne.symm h.1), ih h.2, List.map_cons]

/-- Texts are made of what their parts are made of, unless the second part begins with a
character that a mark could stand in front of. -/
theorem points_append {ds : List Char} (h : ∀ d ∈ ds.head?, isAfterMark d = false)
    (cs : List Char) : points (cs ++ ds) = points cs ++ points ds := by
  fun_induction points cs with
  | case1 => rfl
  | case2 c =>
    cases ds with
    | nil => rfl
    | cons d ds =>
      by_cases hc : c = mark
      · subst hc
        exact points_mark_cons (h d rfl) ds
      · exact points_cons_of_ne hc _
  | case3 d cs hlt hle ih =>
    have hhalf (rest : List Char) : points (mark :: d :: rest) =
        .half ⟨d.toNat - 0xE000, hlt⟩ :: points rest := by
      rw [points, if_pos rfl, dif_pos hlt, if_pos hle]
    exact (hhalf _).trans (congrArg _ ih)
  | case4 d cs hlt hle ih =>
    have hplain (rest : List Char) : points (mark :: d :: rest) =
        .char mark :: points (d :: rest) := by
      rw [points, if_pos rfl, dif_pos hlt, if_neg hle]
    exact (hplain _).trans (congrArg _ ih)
  | case5 cs hge ih =>
    have hgap (rest : List Char) : points (mark :: halfChar halfCount :: rest) =
        .char mark :: points rest := by
      rw [points, if_pos rfl, dif_neg hge, if_pos rfl]
    exact (hgap _).trans (congrArg _ ih)
  | case6 d cs hge hne ih =>
    have hplain (rest : List Char) : points (mark :: d :: rest) =
        .char mark :: points (d :: rest) := by
      rw [points, if_pos rfl, dif_neg hge, if_neg hne]
    exact (hplain _).trans (congrArg _ ih)
  | case7 c d cs hc ih => exact (points_cons_of_ne hc _).trans (congrArg _ ih)

/-- The character that a point is, unless it is a half. -/
def Point.char? : Point → Option Char
  | char c => some c
  | half _ => none

/-- The characters of a text, if it holds no halves. -/
def chars? (s : String) : Option (List Char) :=
  if s.toList.contains mark then (points s.toList).mapM Point.char? else some s.toList

/-- The points of a text. -/
def pointsOf (s : String) : List Point :=
  if s.toList.contains mark then points s.toList else s.toList.map .char

/-- A text in which every half is shown as something else. -/
def mapHalves (f : Nat → List Char) (s : String) : String :=
  if s.contains mark then
    ofPoints ((points s.toList).flatMap fun p =>
      match p with
      | .char c => [.char c]
      | .half k => (f (0xD800 + k)).map .char)
  else s

/-- Does a text hold a half? -/
def hasHalf (s : String) : Bool := (chars? s).isNone

theorem pointsOf_eq (s : String) : pointsOf s = points s.toList := by
  rw [pointsOf]
  split
  · rfl
  · next h => exact (points_of_not_mem (by simpa using h)).symm

theorem pointsOf_append {t : String} (h : ∀ d ∈ t.toList.head?, isAfterMark d = false)
    (s : String) : pointsOf (s ++ t) = pointsOf s ++ pointsOf t := by
  rw [pointsOf_eq, pointsOf_eq, pointsOf_eq, String.toList_append, points_append h]

theorem chars?_eq (s : String) : chars? s = (pointsOf s).mapM Point.char? := by
  rw [chars?, pointsOf]
  split
  · rfl
  · exact (mapM_eq_some_iff.2 (by rw [List.map_map]; rfl)).symm

/-- A text has characters exactly if it is made of them. -/
theorem chars?_eq_some_iff {s : String} {cs : List Char} :
    chars? s = some cs ↔ pointsOf s = cs.map .char := by
  rw [chars?_eq, mapM_eq_some_iff]
  constructor
  · intro h
    generalize pointsOf s = ps at h
    induction ps generalizing cs with
    | nil => rw [List.map_eq_nil_iff.1 h.symm, List.map_nil]
    | cons p ps ih =>
      obtain ⟨c, cs, rfl, hc, hcs⟩ := List.map_eq_cons_iff.1 h.symm
      cases p with
      | half k => cases hc
      | char d => rw [Option.some.inj hc, ih hcs.symm, List.map_cons]
  · intro h
    rw [h, List.map_map]
    rfl

/-- A text begins with its first character, unless a mark stands there. -/
theorem head?_of_chars? {s : String} {cs : List Char} (h : chars? s = some cs)
    (hmark : ∀ c ∈ s.toList.head?, c ≠ mark) : cs.head? = s.toList.head? := by
  rw [chars?_eq_some_iff, pointsOf_eq] at h
  cases hchars : s.toList with
  | nil =>
    rw [hchars] at h
    rw [List.map_eq_nil_iff.1 h.symm]
  | cons c rest =>
    rw [hchars, points_cons_of_ne (hmark c (by rw [hchars]; rfl))] at h
    obtain ⟨d, ds, rfl, hd, -⟩ := List.map_eq_cons_iff.1 h.symm
    cases hd
    rfl

/-- A text without a mark is made of its characters. -/
theorem pointsOf_of_not_mem {s : String} (h : mark ∉ s.toList) :
    pointsOf s = s.toList.map .char := by rw [pointsOf_eq, points_of_not_mem h]

theorem chars?_of_not_mem {s : String} (h : mark ∉ s.toList) : chars? s = some s.toList :=
  chars?_eq_some_iff.2 (pointsOf_of_not_mem h)

theorem hasHalf_of_not_mem {s : String} (h : mark ∉ s.toList) : hasHalf s = false := by
  rw [hasHalf, chars?_of_not_mem h]
  rfl

theorem hasHalf_eq_true_iff {s : String} : hasHalf s = true ↔ ∃ k, .half k ∈ pointsOf s := by
  rw [hasHalf, Option.isNone_iff_eq_none, chars?_eq, mapM_eq_none_iff]
  constructor
  · rintro ⟨c | k, hp, hnone⟩
    · cases hnone
    · exact ⟨k, hp⟩
  · rintro ⟨k, hk⟩
    exact ⟨_, hk, rfl⟩

/-- A text of characters is made of these. -/
theorem pointsOf_ofChars (cs : List Char) : pointsOf (ofChars cs) = cs.map .char := by
  rw [pointsOf_eq, ofChars]
  split
  · rw [ofPoints, String.toList_ofList, points_write]
  · next h => rw [String.toList_ofList, points_of_not_mem (by simpa using h)]

/-! ## order -/

/-- The code points of a text. -/
def codes (s : String) : List Nat := (points s.toList).map Point.toNat

/-- Texts in the order of their code points.  Two spellings of one text stand in the order of
their characters. -/
def AtMost (s t : String) : Prop := codes s < codes t ∨ codes s = codes t ∧ s ≤ t

instance : DecidableRel AtMost := fun s t =>
  inferInstanceAs (Decidable (codes s < codes t ∨ codes s = codes t ∧ s ≤ t))

section AtMost

variable {s t u : String}

theorem AtMost.trans (hst : AtMost s t) (htu : AtMost t u) : AtMost s u := by
  rcases hst with hst | ⟨hst, hle⟩
  · rcases htu with htu | ⟨htu, -⟩
    · exact .inl (List.lt_trans hst htu)
    · exact .inl (htu ▸ hst)
  · rcases htu with htu | ⟨htu, hle'⟩
    · exact .inl (hst ▸ htu)
    · exact .inr ⟨hst.trans htu, String.le_trans hle hle'⟩

theorem AtMost.total (s t : String) : AtMost s t ∨ AtMost t s := by
  by_cases hst : codes s < codes t
  · exact .inl (.inl hst)
  · by_cases hts : codes t < codes s
    · exact .inr (.inl hts)
    · have hsame : codes s = codes t := List.le_antisymm (List.not_lt.1 hts) (List.not_lt.1 hst)
      exact (String.le_total s t).imp (fun h => .inr ⟨hsame, h⟩) fun h => .inr ⟨hsame.symm, h⟩

theorem AtMost.antisymm (hst : AtMost s t) (hts : AtMost t s) : s = t := by
  rcases hst with hst | ⟨hst, hle⟩
  · rcases hts with hts | ⟨hts, -⟩
    · exact absurd (List.lt_trans hst hts) (List.lt_irrefl _)
    · exact absurd (hts ▸ hst) (List.lt_irrefl _)
  · rcases hts with hts | ⟨-, hle'⟩
    · exact absurd (hst ▸ hts) (List.lt_irrefl _)
    · exact String.le_antisymm hle hle'

end AtMost

end ChainApi.Text
