/-!
# ChainApi.Url.Punycode

Texts of all characters written in letters, digits and hyphens, as labels of host names
are.  The ASCII characters come first; then, in the order of their code points, the
others: each as a number that says how far it is from the one before it, counting all
places at which it could stand for every code point in between.

A number is written to the base 36, its lowest digit first, and ends with the first
digit below a threshold, which depends on the place of the digit and on a bias that
follows the size of the numbers.

* `encode` and `decode?` — writing and reading such texts;
* `digitValue?_digit` — the digits read back.
-/

namespace ChainApi.Url.Punycode

/-! ## digits and thresholds -/

/-- The digit with a value below 36: the letters come first. -/
def digit (d : Nat) : Char := Char.ofNat (if d < 26 then 0x61 + d else 0x30 + (d - 26))

/-- The value of a digit, with letters in lower case. -/
def digitValue? (c : Char) : Option Nat :=
  if c.isLower then some (c.toNat - 0x61)
  else if c.isDigit then some (c.toNat - 0x30 + 26)
  else none

theorem digitValue?_digit {d : Nat} (h : d < 36) : digitValue? (digit d) = some d := by
  have hall : ∀ e ∈ List.range 36, digitValue? (digit e) = some e := by decide
  exact hall d (List.mem_range.2 h)

/-- What a digit has to stay below to be the last one of its number; the places of
digits are counted by 36. -/
def threshold (bias place : Nat) : Nat := max 1 (min 26 (place - bias))

theorem one_le_threshold (bias place : Nat) : 1 ≤ threshold bias place :=
  Nat.le_max_left ..

/-- A number divided by 35 until it is at most 455, and 36 for each division. -/
def shrunk (n steps : Nat) : Nat × Nat :=
  if 455 < n then shrunk (n / 35) (steps + 36) else (n, steps)
termination_by n
decreasing_by exact Nat.div_lt_self (by omega) (by omega)

/-- The bias after a number, given how many characters there are now. -/
def nextBias (number count : Nat) (isFirst : Bool) : Nat :=
  let n := number / (if isFirst then 700 else 2)
  let (n, steps) := shrunk (n + n / count) 0
  steps + 36 * n / (n + 38)

/-- The bias before the first number. -/
def firstBias : Nat := 72

/-! ## writing -/

/-- The digits of a number from a place on. -/
def digits (bias place n : Nat) : List Char :=
  let t := threshold bias place
  if n < t then [digit n]
  else digit (t + (n - t) % (36 - t)) :: digits bias (place + 36) ((n - t) / (36 - t))
termination_by n
decreasing_by
  have := one_le_threshold bias place
  have := Nat.div_le_self (n - threshold bias place) (36 - threshold bias place)
  omega

/-- A text being written: what is written of the numbers, the number that has come
together, the bias, and how many characters are written. -/
structure Writing where
  out : List Char
  number : Nat
  bias : Nat
  count : Nat

/-- Writing passes a character while the characters of one code point are written. -/
def Writing.pass (basic code : Nat) (s : Writing) (c : Char) : Writing :=
  if c.toNat < code then { s with number := s.number + 1 }
  else if c.toNat == code then
    { out := s.out ++ digits s.bias 36 s.number
      number := 0
      bias := nextBias s.number (s.count + 1) (s.count == basic)
      count := s.count + 1 }
  else s

/-- The numbers of all code points, given in their order, from one on. -/
def writeCodes (cs : List Char) (basic : Nat) : (first : Nat) → List Nat → Writing → List Char
  | _, [], s => s.out
  | first, code :: codes, s =>
    let s := { s with number := s.number + (code - first) * (s.count + 1) }
    let s := cs.foldl (Writing.pass basic code) s
    writeCodes cs basic (code + 1) codes { s with number := s.number + 1 }

/-- A text in letters, digits and hyphens. -/
def encode (cs : List Char) : List Char :=
  let basic := cs.filter (·.toNat < 0x80)
  let codes := ((cs.map Char.toNat).filter (0x80 ≤ ·)).mergeSort.eraseDups
  let start : Writing := { out := [], number := 0, bias := firstBias, count := basic.length }
  basic ++ (if basic.isEmpty then [] else ['-']) ++ writeCodes cs basic.length 0x80 codes start

/-! ## reading -/

/-- The number at the start of a text, and the text after it. -/
def readNumber? (bias : Nat) : (place weight value : Nat) → List Char → Option (Nat × List Char)
  | _, _, _, [] => none
  | place, weight, value, c :: cs =>
    match digitValue? c with
    | none => none
    | some d =>
      let t := threshold bias place
      let value := value + d * weight
      if d < t then some (value, cs) else readNumber? bias (place + 36) (weight * (36 - t)) value cs

/-- What stands after a number is shorter. -/
theorem length_lt_of_readNumber? {bias place weight value n : Nat} {cs rest : List Char}
    (h : readNumber? bias place weight value cs = some (n, rest)) : rest.length < cs.length := by
  induction cs generalizing place weight value with
  | nil => simp [readNumber?] at h
  | cons c cs ih =>
    simp only [readNumber?] at h
    split at h
    · cases h
    · split at h
      · cases h; simp
      · have := ih h
        simp only [List.length_cons]
        omega

/-- Puts a character into the text for each number; `place` and `code` are those at
which the next number starts to count. -/
def readCodes? (bias place code : Nat) (isFirst : Bool) (text cs : List Char) :
    Option (List Char) :=
  if cs.isEmpty then some text
  else
    match _h : readNumber? bias 36 1 0 cs with
    | none => none
    | some (n, rest) =>
      let count := text.length + 1
      let code := code + (place + n) / count
      let place := (place + n) % count
      if code.isValidChar then
        readCodes? (nextBias n count isFirst) (place + 1) code false
          (text.take place ++ Char.ofNat code :: text.drop place) rest
      else none
termination_by cs.length
decreasing_by exact length_lt_of_readNumber? (by assumption)

/-- The text written in letters, digits and hyphens; the last hyphen ends the ASCII
characters. -/
def decode? (cs : List Char) : Option (List Char) :=
  let numbers := (cs.reverse.takeWhile (· != '-')).reverse
  let basic := (cs.take (cs.length - numbers.length)).dropLast
  readCodes? firstBias 0 0x80 true basic numbers

end ChainApi.Url.Punycode
