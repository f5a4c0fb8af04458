/-!
# ChainApi.Text.Numeral

What numerals are written with: the decimal digits of all scripts, ten in a row
for each of them, and the blanks that may surround a numeral.

* `digit?` — the value of a digit of any script;
* `trimmed` — a text without the blanks around it;
* `plain` — a numeral in the digits of ASCII.
-/

namespace ChainApi.Text.Numeral

/-- The code points of the zeros of all scripts. -/
def zeros : List Nat :=
  [0x30, 0x660, 0x6f0, 0x7c0, 0x966, 0x9e6, 0xa66, 0xae6, 0xb66, 0xbe6, 0xc66, 0xce6, 0xd66,
   0xde6, 0xe50, 0xed0, 0xf20, 0x1040, 0x1090, 0x17e0, 0x1810, 0x1946, 0x19d0, 0x1a80, 0x1a90,
   0x1b50, 0x1bb0, 0x1c40, 0x1c50, 0xa620, 0xa8d0, 0xa900, 0xa9d0, 0xa9f0, 0xaa50, 0xabf0, 0xff10,
   0x104a0, 0x10d30, 0x11066, 0x110f0, 0x11136, 0x111d0, 0x112f0, 0x11450, 0x114d0, 0x11650,
   0x116c0, 0x11730, 0x118e0, 0x11950, 0x11c50, 0x11d50, 0x11da0, 0x16a60, 0x16ac0, 0x16b50,
   0x1d7ce, 0x1d7d8, 0x1d7e2, 0x1d7ec, 0x1d7f6, 0x1e140, 0x1e2f0, 0x1e950, 0x1fbf0]

/-- The value of a digit of any script. -/
def digit? (c : Char) : Option Nat :=
  if c.toNat < 0x80 then (if c.isDigit then some (c.toNat - 48) else none)
  else (zeros.find? fun z => z ≤ c.toNat && c.toNat < z + 10).map (c.toNat - ·)

/-- Is this a blank that may surround a numeral? -/
def isBlank (c : Char) : Bool :=
  let n := c.toNat
  (9 ≤ n && n ≤ 13) || n == 0x20 || n == 0x85 || n == 0xA0 || n == 0x1680 ||
    (0x2000 ≤ n && n ≤ 0x200A) || n == 0x2028 || n == 0x2029 || n == 0x202F || n == 0x205F ||
    n == 0x3000

/-- A text without the blanks around it. -/
def trimmed (cs : List Char) : List Char :=
  ((cs.dropWhile isBlank).reverse.dropWhile isBlank).reverse

/-- A character of a numeral, a digit as the one of ASCII. -/
def plainChar (c : Char) : Char :=
  if c.toNat < 0x80 then c else ((digit? c).map Nat.digitChar).getD c

/-- A numeral in the digits of ASCII, without the blanks around it. -/
def plain (cs : List Char) : List Char := (trimmed cs).map plainChar

/-- The longest decimal numeral of an integer that is read or written. -/
def maxDigits : Nat := 4300

/-- The digits of ASCII in which single underscores may stand between two digits. -/
def grouped? : List Char → Option (List Char)
  | [] => none
  | [c] => if c.isDigit then some [c] else none
  | c :: '_' :: cs => if c.isDigit then (grouped? cs).map (c :: ·) else none
  | c :: cs => if c.isDigit then (grouped? cs).map (c :: ·) else none

/-- Is this a decimal numeral of an integer? -/
def isInteger (cs : List Char) : Bool :=
  let digits := match plain cs with
    | '-' :: ds | '+' :: ds => ds
    | ds => ds
  (grouped? digits).any (·.length ≤ maxDigits)

/-- Characters of ASCII stay as they are. -/
theorem plainChar_of_lt {c : Char} (h : c.toNat < 0x80) : plainChar c = c := by
  simp [plainChar, h]

end ChainApi.Text.Numeral
