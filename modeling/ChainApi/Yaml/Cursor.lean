/-!
# ChainApi.Yaml.Cursor

A place in a YAML text: what is still to be read, and where it stands.  Lines and
columns matter to YAML, since blocks are told apart by their indentation.

* `Cursor.next`, `Cursor.advance` — move on by one character or several;
* `rest_advance` — what is left after moving on;
* `Cursor.skipWhile` — move over the characters of a class.
-/

namespace ChainApi.Yaml

/-- Why a YAML text has no value. -/
inductive Fault where
  /-- The text is not well formed, or it refers to something that is not there. -/
  | malformed
  /-- A numeral or a date denotes nothing. -/
  | badNumeral
  /-- A scalar that should be a number is empty. -/
  | emptyNumeral
  /-- A scalar that should be a truth value is none. -/
  | badTruth
  /-- A scalar that should be a date does not look like one. -/
  | badDate
  /-- An escape gives the number of no character. -/
  | badCharacter
  /-- A number is far beyond what it is needed for, be it a character or a power of
  sixty. -/
  | tooLarge
  /-- A mapping stands where a date should be. -/
  | notScalar
  /-- The text is nested too deeply, or the default value of a mapping leads back to the
  mapping itself. -/
  | endless
  deriving DecidableEq, Repr

/-- Does a line end with this character? -/
def isBreak (c : Char) : Bool := c == '\n' || c == '\x85' || c == '\u2028' || c == '\u2029'

/-- Is this a blank or a tab? -/
def isBlank (c : Char) : Bool := c == ' ' || c == '\t'

/-- Does a line, or the text, end here? -/
def endsLine : Option Char → Bool
  | none => true
  | some c => isBreak c

/-- Does a word end here? -/
def endsWord : Option Char → Bool
  | none => true
  | some c => isBlank c || isBreak c

/-- The characters that may occur in a text at all: no controls other than tab and
line breaks, and no code points that are set aside. -/
def isAllowed (c : Char) : Bool :=
  let n := c.toNat
  n == 0x09 || n == 0x0A || n == 0x0D || (0x20 ≤ n && n ≤ 0x7E) || n == 0x85 ||
    (0xA0 ≤ n && n ≤ 0xD7FF) || (0xE000 ≤ n && n ≤ 0xFFFD) || 0x10000 ≤ n

/-- A place in a text. -/
structure Cursor where
  /-- What is still to be read. -/
  rest : List Char
  /-- The number of characters read. -/
  index : Nat := 0
  line : Nat := 0
  column : Nat := 0

namespace Cursor

/-- The next character. -/
def peek (c : Cursor) : Option Char := c.rest.head?

/-- The character after the next one. -/
def peekSecond (c : Cursor) : Option Char := (c.rest.drop 1).head?

/-- Is this the next character? -/
def at? (c : Cursor) (x : Char) : Bool := c.peek == some x

/-- Move over one character.  A byte order mark takes no column. -/
def next (c : Cursor) : Cursor :=
  match c.rest with
  | [] => c
  | x :: rest =>
    if isBreak x then ⟨rest, c.index + 1, c.line + 1, 0⟩
    else ⟨rest, c.index + 1, c.line, if x = '\uFEFF' then c.column else c.column + 1⟩

/-- Move over several characters. -/
def advance (c : Cursor) : Nat → Cursor
  | 0 => c
  | n + 1 => c.next.advance n

@[simp] theorem rest_next (c : Cursor) : c.next.rest = c.rest.drop 1 := by
  unfold next
  split
  · next h => simp [h]
  · next h => split <;> simp [h]

/-- Moving on leaves the rest of the text. -/
@[simp] theorem rest_advance (c : Cursor) (n : Nat) : (c.advance n).rest = c.rest.drop n := by
  induction n generalizing c with
  | zero => rfl
  | succ n ih => rw [advance, ih, rest_next, List.drop_drop, Nat.add_comm]

/-- The longest run of characters of a class that stands here. -/
def run (c : Cursor) (p : Char → Bool) : List Char := c.rest.takeWhile p

/-- Move over the longest run of characters of a class. -/
def skipWhile (c : Cursor) (p : Char → Bool) : Cursor := c.advance (c.run p).length

/-- Move over blanks, but not over tabs. -/
def skipSpaces (c : Cursor) : Cursor := c.skipWhile (· == ' ')

/-- Move to the end of the line. -/
def skipLine (c : Cursor) : Cursor := c.skipWhile fun x => !isBreak x

/-- The line break that stands here, and the place after it.  All but the two
separators of Unicode count as a line feed. -/
def lineBreak? (c : Cursor) : Option (Char × Cursor) :=
  match c.rest with
  | x :: _ => if isBreak x then some (if x = '\x85' then '\n' else x, c.next) else none
  | [] => none

/-- Does a line of three marks stand here, such as the one that starts a
document? -/
def marker (c : Cursor) (mark : Char) : Bool :=
  c.rest.take 3 == [mark, mark, mark] && endsWord (c.rest.drop 3).head?

/-- Does a line that separates documents stand here? -/
def separator (c : Cursor) : Bool := c.marker '-' || c.marker '.'

end Cursor

end ChainApi.Yaml
