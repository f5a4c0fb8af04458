import ChainApi.Url.Label.Chars

/-!
# ChainApi.Url.Label.Direction

The directions in which labels are written.  A label with a character that runs to the
left must be one of which the beginning and the end can be seen among others.

* `Direction` — the directions of characters;
* `isDirected` — the labels in which they go together.
-/

namespace ChainApi.Url

/-- The direction of a character: letters run to the right or to the left, and the
others go with those around them. -/
inductive Direction where
  | right
  | left
  | digit
  | arabicDigit
  | mark
  | neutral
deriving DecidableEq

/-- The scripts that run to the left, in ranges. -/
def leftRanges : List (Nat × Nat) :=
  [(0x590, 0x8ff), (0xfb1d, 0xfdff), (0xfe70, 0xfeff), (0x10800, 0x10fff), (0x1e800, 0x1efff)]

/-- The characters of labels without a direction, in ranges. -/
def neutralRanges : List (Nat × Nat) :=
  [(0x2d, 0x2d), (0xb7, 0xb7), (0x2b9, 0x2ba), (0x2c6, 0x2cf), (0x2ec, 0x2ec), (0x375, 0x375),
   (0x200c, 0x200d), (0x2e2f, 0x2e2f), (0x30fb, 0x30fb), (0xa67f, 0xa67f), (0xa717, 0xa71f),
   (0xa788, 0xa788)]

/-- The digits that go with the letters of the Arabic script, in ranges. -/
def arabicDigitRanges : List (Nat × Nat) := [(0x660, 0x669), (0x10d30, 0x10d39)]

/-- The other digits that are written alike in all directions, in ranges. -/
def digitRanges : List (Nat × Nat) := [(0x30, 0x39), (0x6f0, 0x6f9)]

/-- The direction of a character of labels. -/
def direction (c : Char) : Direction :=
  let n := c.toNat
  if Text.inRanges digitRanges n then .digit
  else if Text.inRanges arabicDigitRanges n then .arabicDigit
  else if Text.inRanges neutralRanges n then .neutral
  else if isNonspacing c then .mark
  else if Text.inRanges leftRanges n then .left
  else .right

/-- Do the directions of a label go together?  If one runs to the left, the first one
does, none runs to the right, digits are of one kind, and the last one is a letter's or
a digit's, marks apart. -/
def isDirected (cs : List Char) : Bool :=
  let ds := cs.map direction
  if ds.contains .left || ds.contains .arabicDigit then
    ds.head? == some .left && !ds.contains .right &&
      !(ds.contains .digit && ds.contains .arabicDigit) &&
      (ds.reverse.find? (· != .mark)).any (· != .neutral)
  else true

end ChainApi.Url
