/-!
# ChainApi.Text.Ranges

Sets of characters as lists of code-point ranges, the form in which character
properties are tabulated.
-/

namespace ChainApi.Text

/-- Does a code point lie in one of the ranges?  Both ends belong to a range. -/
def inRanges (ranges : List (Nat × Nat)) (c : Nat) : Bool :=
  ranges.any fun r => r.1 ≤ c && c ≤ r.2

end ChainApi.Text
