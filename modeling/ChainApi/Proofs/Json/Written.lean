import ChainApi.Json

/-!
# ChainApi.Proofs.Json.Written

JSON values as they are written, with every blank and every escape in its place: the
grammar of RFC 8259, with numbers that are plain integers.

* `Piece`, `Written`, `WrittenItems`, `WrittenMembers` — how characters, values, items and
  members are written;
* `Written.text`, `Written.value` — the characters that are written, and what they stand
  for;
* `Written.Valid` — what the grammar asks for beyond the shape of the tree.
-/

namespace ChainApi

/-- The entries of a mapping after members are written, one after the other. -/
def Value.writeMembers (es : List (Value × Value)) (ms : List (String × Value)) :
    List (Value × Value) :=
  ms.foldl (fun es m => writeEntry es (.str m.1) m.2) es

namespace Json

/-! ## strings -/

/-- One character of a string literal as it is written. -/
inductive Piece where
  /-- The character itself. -/
  | raw (c : Char)
  /-- An escape of one letter. -/
  | short (letter c : Char)
  /-- An escape with the number of the character `x` in four digits. -/
  | numeric (a b c d x : Char)
  /-- The two escapes of a character beyond the basic plane. -/
  | pair (a b c d e f g h x : Char)
  deriving DecidableEq, Repr

namespace Piece

/-- The character that is written. -/
def char : Piece → Char
  | raw c => c
  | short _ c => c
  | numeric _ _ _ _ x => x
  | pair _ _ _ _ _ _ _ _ x => x

/-- How it is written. -/
def text : Piece → List Char
  | raw c => [c]
  | short letter _ => ['\\', letter]
  | numeric a b c d _ => ['\\', 'u', a, b, c, d]
  | pair a b c d e f g h _ => ['\\', 'u', a, b, c, d, '\\', 'u', e, f, g, h]

/-- Is the character written as the grammar allows, and is it the one that is meant? -/
def Valid : Piece → Prop
  | raw c => 0x20 ≤ c.toNat ∧ c ≠ '"' ∧ c ≠ '\\'
  | short letter c => escape? letter = some c
  | numeric a b c d x => hex4? a b c d = some x.toNat
  | pair a b c d e f g h x =>
    ∃ u v, u < 0x400 ∧ v < 0x400 ∧ hex4? a b c d = some (0xD800 + u) ∧
      hex4? e f g h = some (0xDC00 + v) ∧ x.toNat = 0x10000 + u * 0x400 + v

end Piece

/-- The characters between the quotes of a string literal. -/
def inside (pieces : List Piece) : List Char := pieces.flatMap Piece.text

/-- A string literal. -/
def literal (pieces : List Piece) : List Char := '"' :: inside pieces ++ ['"']

/-- The text that a string literal stands for. -/
def meaning (pieces : List Piece) : String := Text.ofChars (pieces.map Piece.char)

/-! ## values -/

/-- The name of a member, with the blanks before it, before its colon and after that. -/
structure Name where
  before : List Char
  pieces : List Piece
  gap : List Char
  lead : List Char
  deriving DecidableEq, Repr

/-- The characters of a name and its colon. -/
def Name.text (n : Name) : List Char :=
  n.before ++ (literal n.pieces ++ (n.gap ++ ':' :: n.lead))

mutual

/-- A value as it is written. -/
inductive Written where
  | null
  | bool (b : Bool)
  | integer (negative : Bool) (digits : List Char)
  | string (pieces : List Piece)
  /-- Two square brackets with nothing but blanks between them. -/
  | emptyList (blank : List Char)
  | list (items : WrittenItems)
  /-- Two braces with nothing but blanks between them. -/
  | emptyObject (blank : List Char)
  | object (members : WrittenMembers)

/-- The items of a list as they are written, each with the blanks before and after it. -/
inductive WrittenItems where
  | last (before : List Char) (v : Written) (after : List Char)
  | more (before : List Char) (v : Written) (after : List Char) (rest : WrittenItems)

/-- The members of an object as they are written, each with the blanks after it. -/
inductive WrittenMembers where
  | last (name : Name) (v : Written) (after : List Char)
  | more (name : Name) (v : Written) (after : List Char) (rest : WrittenMembers)

end

/-- A truth value as it is written. -/
def truthText (b : Bool) : List Char := if b then "true".toList else "false".toList

/-- An integer as it is written. -/
def integerText (negative : Bool) (digits : List Char) : List Char :=
  if negative then '-' :: digits else digits

/-- The integer that is written. -/
def integerValue (negative : Bool) (digits : List Char) : Int :=
  if negative then -(digitsValue digits : Int) else digitsValue digits

mutual

/-- The characters of a value. -/
def Written.text : Written → List Char
  | .null => "null".toList
  | .bool b => truthText b
  | .integer negative digits => integerText negative digits
  | .string pieces => literal pieces
  | .emptyList blank => '[' :: (blank ++ [']'])
  | .list items => '[' :: (items.text ++ [']'])
  | .emptyObject blank => '{' :: (blank ++ ['}'])
  | .object members => '{' :: (members.text ++ ['}'])

/-- The characters of items and the commas between them. -/
def WrittenItems.text : WrittenItems → List Char
  | .last before v after => before ++ (v.text ++ after)
  | .more before v after rest => before ++ (v.text ++ (after ++ ',' :: rest.text))

/-- The characters of members and the commas between them. -/
def WrittenMembers.text : WrittenMembers → List Char
  | .last name v after => name.text ++ (v.text ++ after)
  | .more name v after rest => name.text ++ (v.text ++ (after ++ ',' :: rest.text))

end

mutual

/-- The value that is written. -/
def Written.value : Written → Value
  | .null => .null
  | .bool b => .bool b
  | .integer negative digits => .int (integerValue negative digits)
  | .string pieces => .str (meaning pieces)
  | .emptyList _ => .list []
  | .list items => .list items.values
  | .emptyObject _ => .map []
  | .object members => .map (Value.writeMembers [] members.entries)

/-- The values of items. -/
def WrittenItems.values : WrittenItems → List Value
  | .last _ v _ => [v.value]
  | .more _ v _ rest => v.value :: rest.values

/-- The names and values of members. -/
def WrittenMembers.entries : WrittenMembers → List (String × Value)
  | .last name v _ => [(meaning name.pieces, v.value)]
  | .more name v _ rest => (meaning name.pieces, v.value) :: rest.entries

end

/-- A text that holds one value, with the blanks before and after it. -/
structure WrittenText where
  before : List Char
  content : Written
  after : List Char

/-- The characters of a text. -/
def WrittenText.text (t : WrittenText) : List Char := t.before ++ (t.content.text ++ t.after)

/-- Is this a value that is written without quotes and brackets? -/
def Written.isWord : Written → Bool
  | .null | .bool _ | .integer _ _ => true
  | _ => false

/-! ## validity -/

/-- Are these blanks? -/
def Blank (cs : List Char) : Prop := ∀ c ∈ cs, isBlank c = true

/-- Are these the digits of an integer?  It has no zeros in front, and no more digits than
a reader can be asked for. -/
structure Digits (ds : List Char) : Prop where
  digits : ∀ c ∈ ds, c.isDigit = true
  ne_nil : ds ≠ []
  canonical : ds.head? = some '0' → ds = ['0']
  length_le : ds.length ≤ Text.Numeral.maxDigits

section Digits

variable {negative : Bool} {ds : List Char} {c : Char}

theorem Digits.not_mem (h : Digits ds) (hc : c.isDigit = false) : c ∉ ds := fun hmem => by
  rw [h.digits c hmem] at hc
  cases hc

/-- The first character of an integer without its sign. -/
theorem Digits.exists_cons (h : Digits ds) : ∃ d ds', ds = d :: ds' ∧ d.isDigit = true :=
  have ⟨d, ds', heq⟩ := List.exists_cons_of_ne_nil h.ne_nil
  ⟨d, ds', heq, h.digits d (heq ▸ List.mem_cons_self)⟩

/-- The numbers of the digits. -/
theorem toNat_of_isDigit (h : c.isDigit = true) : 48 ≤ c.toNat ∧ c.toNat ≤ 57 := by
  simp only [Char.isDigit, Bool.and_eq_true, decide_eq_true_eq] at h
  exact ⟨UInt32.le_iff_toNat_le.1 h.1, UInt32.le_iff_toNat_le.1 h.2⟩

/-- What holds of the ten digits holds of every digit. -/
theorem of_isDigit {p : Char → Bool} (hp : ∀ n < 10, p (Char.ofNat (48 + n)) = true)
    (h : c.isDigit = true) : p c = true := by
  have hbounds := toNat_of_isDigit h
  have := hp (c.toNat - 48) (by omega)
  rwa [Nat.add_sub_cancel' hbounds.1, Char.ofNat_toNat] at this

theorem eq_sign_or_mem (h : c ∈ integerText negative ds) : c = '-' ∨ c ∈ ds := by
  cases negative
  · exact .inr h
  · exact List.mem_cons.1 h

end Digits

/-- Is the name of a member written as the grammar allows? -/
structure Name.Valid (n : Name) : Prop where
  before : Blank n.before
  pieces : ∀ p ∈ n.pieces, p.Valid
  gap : Blank n.gap
  lead : Blank n.lead

mutual

/-- Is a value written as the grammar allows? -/
def Written.Valid : Written → Prop
  | .null => True
  | .bool _ => True
  | .integer _ digits => Digits digits
  | .string pieces => ∀ p ∈ pieces, p.Valid
  | .emptyList blank => Blank blank
  | .list items => items.Valid
  | .emptyObject blank => Blank blank
  | .object members => members.Valid

/-- Are items written as the grammar allows? -/
def WrittenItems.Valid : WrittenItems → Prop
  | .last before v after => Blank before ∧ v.Valid ∧ Blank after
  | .more before v after rest => Blank before ∧ v.Valid ∧ Blank after ∧ rest.Valid

/-- Are members written as the grammar allows? -/
def WrittenMembers.Valid : WrittenMembers → Prop
  | .last name v after => name.Valid ∧ v.Valid ∧ Blank after
  | .more name v after rest => name.Valid ∧ v.Valid ∧ Blank after ∧ rest.Valid

end

/-- Is a text written as the grammar allows? -/
structure WrittenText.Valid (t : WrittenText) : Prop where
  before : Blank t.before
  content : t.content.Valid
  after : Blank t.after

/-- The characters that words are written with. -/
def wordChars : List Char := "-0123456789aeflnrstu".toList

theorem Written.mem_wordChars {w : Written} (hw : w.Valid) (hword : w.isWord) :
    ∀ c ∈ w.text, c ∈ wordChars := by
  have hall {cs : List Char} (h : cs.all wordChars.contains = true) : ∀ c ∈ cs, c ∈ wordChars :=
    fun c hc => List.contains_iff_mem.1 (List.all_eq_true.1 h c hc)
  match w with
  | .null | .bool true | .bool false => exact hall (by decide)
  | .integer negative ds =>
    have hds : Digits ds := hw
    intro c hc
    rcases eq_sign_or_mem hc with rfl | hc
    · decide
    · exact List.contains_iff_mem.1 (of_isDigit (by decide) (hds.digits c hc))

/-- What holds of these characters holds of all that a word is written with. -/
theorem Written.of_mem_word {w : Written} (hw : w.Valid) (hword : w.isWord) {p : Char → Bool}
    (hp : wordChars.all p = true) : ∀ c ∈ w.text, p c = true :=
  fun c hc => List.all_eq_true.1 hp c (w.mem_wordChars hw hword c hc)

/-! ## nesting -/

mutual

/-- How deeply lists and objects are nested in a value. -/
def Written.depth : Written → Nat
  | .null | .bool _ | .integer _ _ | .string _ => 0
  | .emptyList _ | .emptyObject _ => 1
  | .list items => items.depth + 1
  | .object members => members.depth + 1

/-- How deeply lists and objects are nested in items. -/
def WrittenItems.depth : WrittenItems → Nat
  | .last _ v _ => v.depth
  | .more _ v _ rest => max v.depth rest.depth

/-- How deeply lists and objects are nested in members. -/
def WrittenMembers.depth : WrittenMembers → Nat
  | .last _ v _ => v.depth
  | .more _ v _ rest => max v.depth rest.depth

end

mutual

/-- A value is not nested more deeply than it has characters. -/
theorem Written.depth_le (w : Written) : w.depth ≤ w.text.length := by
  match w with
  | .null | .bool _ | .integer _ _ | .string _ => exact Nat.zero_le _
  | .emptyList blank | .emptyObject blank => simp [Written.depth, Written.text]
  | .list items =>
    have := items.depth_le
    simp only [Written.depth, Written.text, List.length_cons, List.length_append]
    omega
  | .object members =>
    have := members.depth_le
    simp only [Written.depth, Written.text, List.length_cons, List.length_append]
    omega

theorem WrittenItems.depth_le (items : WrittenItems) : items.depth ≤ items.text.length := by
  match items with
  | .last _ v _ =>
    have := v.depth_le
    simp only [WrittenItems.depth, WrittenItems.text, List.length_append]
    omega
  | .more _ v _ rest =>
    have := v.depth_le
    have := rest.depth_le
    simp only [WrittenItems.depth, WrittenItems.text, List.length_append, List.length_cons]
    omega

theorem WrittenMembers.depth_le (members : WrittenMembers) :
    members.depth ≤ members.text.length := by
  match members with
  | .last _ v _ =>
    have := v.depth_le
    simp only [WrittenMembers.depth, WrittenMembers.text, List.length_append]
    omega
  | .more _ v _ rest =>
    have := v.depth_le
    have := rest.depth_le
    simp only [WrittenMembers.depth, WrittenMembers.text, List.length_append, List.length_cons]
    omega

end

end Json

end ChainApi
