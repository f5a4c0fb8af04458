import ChainApi.Text.Encoding

/-!
# ChainApi.Proofs.Utf8

Texts read back from their UTF-8 bytes.  The first byte of a character announces how many
follow and between which bounds the second one lies, and each byte that follows adds six bits
to the value.  The bounds keep out the longer spellings of small numbers and the numbers that
no character has, so that the bytes of a character always pass them.

* `start_ascii`, `start_two`, `start_three`, `start_four` — what the first byte announces;
* `scan_trail`, `scan_last` — a byte that follows it;
* `scan_character` — the bytes of a character are read as its number;
* `decode?_encode` — the bytes of a text are read as the text.
-/

namespace ChainApi.Text.Utf8

/-- The bytes of a text are those of its characters. -/
theorem encode_eq (s : String) : encode s = s.toList.flatMap String.utf8EncodeChar := by
  have h : s.toByteArray = s.toList.utf8Encode := by
    rw [← String.toByteArray_ofList, String.ofList_toList]
  rw [encode, String.toUTF8, h, List.utf8Encode]
  simp

theorem encode_toString (c : Char) : encode c.toString = String.utf8EncodeChar c := by
  simp [encode_eq]

section Scan

variable {n : Nat} {loose : Bool} {p : Pending} {bs : List UInt8}

/-! ## first bytes -/

theorem start_ascii (h : n < 0x80) : start loose (UInt8.ofNat n) = ([some n], none) := by
  have hn : (UInt8.ofNat n).toNat = n := by simp; omega
  simp only [start, UInt8.lt_iff_toNat_lt, hn, UInt8.reduceToNat]
  rw [if_pos h]

theorem start_two (loose : Bool) (low : 0x80 ≤ n) (high : n < 0x800) :
    start loose (UInt8.ofNat (n / 64 % 32 + 192)) = ([], some ⟨n / 64, 1, 0x80, 0xBF⟩) := by
  have hn : (UInt8.ofNat (n / 64 % 32 + 192)).toNat = n / 64 + 192 := by simp; omega
  simp only [start, UInt8.lt_iff_toNat_lt, UInt8.le_iff_toNat_le, hn, UInt8.reduceToNat]
  rw [if_neg (by omega), if_pos (by omega), Nat.add_sub_cancel]

/-- May a number lie in the six bits of the next byte? -/
def Pending.Admits (p : Pending) (n : Nat) : Prop :=
  p.low.toNat ≤ n % 64 + 128 ∧ n % 64 + 128 ≤ p.high.toNat

/-- Three bytes are announced so that neither a number with fewer bytes nor half of a
surrogate pair passes. -/
theorem start_three (low : 0x800 ≤ n) (high : n < 0x10000) (whole : n < 0xD800 ∨ 0xDFFF < n) :
    ∃ p : Pending, start false (UInt8.ofNat (n / 4096 % 16 + 224)) = ([], some p) ∧
      p.value = n / 4096 ∧ p.missing = 2 ∧ p.Admits (n / 64) := by
  have hn : (UInt8.ofNat (n / 4096 % 16 + 224)).toNat = n / 4096 + 224 := by simp; omega
  simp only [start, UInt8.lt_iff_toNat_lt, UInt8.le_iff_toNat_le, ← UInt8.toNat_inj, hn,
    UInt8.reduceToNat]
  rw [if_neg (by omega), if_neg (by omega)]
  split
  · exact ⟨_, rfl, by dsimp only; omega, rfl, by simp [Pending.Admits]; omega⟩
  · split
    · exact ⟨_, rfl, by dsimp only; omega, rfl, by simp [Pending.Admits]; omega⟩
    · rw [if_pos (by omega)]
      exact ⟨_, rfl, by dsimp only; omega, rfl, by simp [Pending.Admits]; omega⟩

/-- Four bytes are announced so that neither a number with fewer bytes nor one beyond the
last character passes. -/
theorem start_four (loose : Bool) (low : 0x10000 ≤ n) (high : n < 0x110000) :
    ∃ p : Pending, start loose (UInt8.ofNat (n / 262144 % 8 + 240)) = ([], some p) ∧
      p.value = n / 262144 ∧ p.missing = 3 ∧ p.Admits (n / 4096) := by
  have hn : (UInt8.ofNat (n / 262144 % 8 + 240)).toNat = n / 262144 + 240 := by simp; omega
  simp only [start, UInt8.lt_iff_toNat_lt, UInt8.le_iff_toNat_le, ← UInt8.toNat_inj, hn,
    UInt8.reduceToNat]
  rw [if_neg (by omega), if_neg (by omega), if_neg (by omega), if_neg (by omega),
    if_neg (by omega)]
  split
  · exact ⟨_, rfl, by dsimp only; omega, rfl, by simp [Pending.Admits]; omega⟩
  · split
    · exact ⟨_, rfl, by dsimp only; omega, rfl, by simp [Pending.Admits]; omega⟩
    · rw [if_pos (by omega)]
      exact ⟨_, rfl, by dsimp only; omega, rfl, by simp [Pending.Admits]; omega⟩

/-! ## bytes that follow -/

/-- The bounds of all bytes that follow but the second one of a character. -/
theorem admits_any (value missing : Nat) : (⟨value, missing, 0x80, 0xBF⟩ : Pending).Admits n := by
  simp only [Pending.Admits, UInt8.reduceToNat]
  omega

theorem scan_pending (admits : p.Admits n) :
    scan loose (some p) (UInt8.ofNat (n % 64 + 128) :: bs) =
      if p.missing ≤ 1 then some (p.value * 64 + n % 64) :: scan loose none bs
      else scan loose (some ⟨p.value * 64 + n % 64, p.missing - 1, 0x80, 0xBF⟩) bs := by
  have hn : (UInt8.ofNat (n % 64 + 128)).toNat = n % 64 + 128 := by simp; omega
  have hvalue : n % 64 + 128 - 0x80 = n % 64 := Nat.add_sub_cancel _ _
  simp only [Pending.Admits] at admits
  simp only [scan, UInt8.le_iff_toNat_le, hn, hvalue, if_pos admits]

/-- A byte with more to follow. -/
theorem scan_trail (admits : p.Admits n) (missing : p.missing = m + 2) :
    scan loose (some p) (UInt8.ofNat (n % 64 + 128) :: bs) =
      scan loose (some ⟨p.value * 64 + n % 64, m + 1, 0x80, 0xBF⟩) bs := by
  rw [scan_pending admits, if_neg (by omega), missing, Nat.add_sub_assoc (by omega)]

/-- The last byte of a character. -/
theorem scan_last (value : Nat) :
    scan loose (some ⟨value, 1, 0x80, 0xBF⟩) (UInt8.ofNat (n % 64 + 128) :: bs) =
      some (value * 64 + n % 64) :: scan loose none bs := by
  rw [scan_pending (admits_any value 1), if_pos (Nat.le_refl 1)]

theorem scan_start (h : start loose b = ([], some p)) :
    scan loose none (b :: bs) = scan loose (some p) bs := by
  rw [scan, h, List.nil_append]

end Scan

/-! ## texts -/

/-- The bytes of a character are read as its number, whatever follows them. -/
theorem scan_character (c : Char) (bs : List UInt8) :
    scan false none (String.utf8EncodeChar c ++ bs) = some c.toNat :: scan false none bs := by
  have hvalid : c.toNat.isValidChar := c.valid
  unfold Nat.isValidChar at hvalid
  unfold String.utf8EncodeChar
  have hn : c.val.toNat = c.toNat := rfl
  simp only [hn]
  generalize c.toNat = n at *
  -- one case for each number of bytes
  split
  · rw [List.singleton_append, scan, start_ascii (by omega), List.singleton_append]
  split
  · have hstart := start_two (n := n) false (by omega) (by omega)
    simp only [List.cons_append, List.nil_append]
    rw [scan_start hstart, scan_last, Nat.div_add_mod']
  split
  · obtain ⟨p, hstart, hvalue, hmissing, hadmits⟩ :=
      start_three (n := n) (by omega) (by omega) (by omega)
    have hnumber : (p.value * 64 + n / 64 % 64) * 64 + n % 64 = n := by omega
    simp only [List.cons_append, List.nil_append]
    rw [scan_start hstart, scan_trail hadmits hmissing, scan_last, hnumber]
  · obtain ⟨p, hstart, hvalue, hmissing, hadmits⟩ :=
      start_four (n := n) false (by omega) (by omega)
    have hnumber : ((p.value * 64 + n / 4096 % 64) * 64 + n / 64 % 64) * 64 + n % 64 = n := by
      omega
    simp only [List.cons_append, List.nil_append]
    rw [scan_start hstart, scan_trail hadmits hmissing, scan_trail (admits_any _ _) rfl,
      scan_last, hnumber]

theorem scan_characters (cs : List Char) :
    scan false none (cs.flatMap String.utf8EncodeChar) = cs.map fun c => some c.toNat := by
  induction cs with
  | nil => rfl
  | cons c cs ih => rw [List.flatMap_cons, scan_character, ih, List.map_cons]

/-- The bytes of a text are read as the text. -/
theorem decode?_encode (s : String) : decode? (encode s) = some s := by
  have hchars : ∀ cs : List Char,
      (cs.map fun c => some c.toNat).mapM (Option.map Char.ofNat) = some cs := by
    intro cs
    induction cs with
    | nil => rfl
    | cons c cs ih => simp [ih]
  rw [decode?, encode_eq, scan_characters, hchars, Option.map_some, String.ofList_toList]

end ChainApi.Text.Utf8
