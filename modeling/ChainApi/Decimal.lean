import ChainApi.Binary64

/-!
# ChainApi.Decimal

The decimal text of double-precision numbers: the fewest digits that read back
as the same number, and among those the nearest ones.

* `Binary64.shortest` — the digits and their exponent;
* `Decimal.Layout` — how a format lays them out;
* `Binary64.text` — the layout used throughout this library: positional from
  `0.0001` up to below `10^16`, always with a point, and otherwise one digit
  before the point and a signed exponent of at least two digits.
-/

namespace ChainApi

namespace Decimal

/-- The decimal digits of a number, most significant first. -/
def digits (n : Nat) : List Char := Nat.toDigits 10 n

/-- The exponent of the leading decimal digit of the positive quotient
`num / den`. -/
def leadingExponent (num den : Nat) : Int :=
  if den ≤ num then (digits (num / den)).length - 1
  else
    let smaller := (den + num - 1) / num - 1
    Int.negOfNat (digits smaller).length

/-- The quotient `num / den` measured in units of `10^k`, as two numbers. -/
def inUnits (num den : Nat) (k : Int) : Nat × Nat :=
  if 0 ≤ k then (num, den * pow10 k.toNat) else (num * pow10 (-k).toNat, den)

end Decimal

namespace Binary64

open Decimal

/-- The multiples of a quarter of the last place that bound the reals which
round to `m · 2^q`: the lower bound, the number itself and the upper bound. -/
def quarters (m : Nat) (q : Int) : Nat × Nat × Nat :=
  if m = pow2 52 ∧ q ≠ -1074 then (4 * m - 1, 4 * m, 4 * m + 2)
  else (4 * m - 2, 4 * m, 4 * m + 2)

/-- The multiple of `10^k` that reads back as `m · 2^q`, if there is one: of the
two neighbours on that grid the nearer, and the even one if both are equally
near.  The bounds of the interval belong to it exactly if `m` is even. -/
def onGrid (m : Nat) (q : Int) (k : Int) : Option Nat :=
  let (low, mid, high) := quarters m q
  let (num, den) := scaleDown 1 1 (2 - q)
  let (num, den) := inUnits num den k
  let inside (d : Nat) : Bool :=
    if m % 2 = 0 then low * num ≤ d * den ∧ d * den ≤ high * num
    else low * num < d * den ∧ d * den < high * num
  let d := mid * num / den
  let belowGap := mid * num - d * den
  let aboveGap := (d + 1) * den - mid * num
  let lower := d != 0 && inside d
  let upper := inside (d + 1)
  if lower && upper then
    if belowGap < aboveGap ∨ (belowGap = aboveGap ∧ d % 2 = 0) then some d else some (d + 1)
  else if lower then some d
  else if upper then some (d + 1)
  else none

/-- Try one digit, then two, and so on: at most `fuel` times, the first grid
being that of `10^k`. -/
def searchGrid (m : Nat) (q : Int) : Nat → Int → Nat × Int
  | 0, k => (0, k)
  | fuel + 1, k =>
    match onGrid m q k with
    | some d => (d, k)
    | none => searchGrid m q fuel (k - 1)

/-- The fewest digits that read back as the positive number `m · 2^q`, with the
exponent of the last of them.  Seventeen digits always do. -/
def shortest (m : Nat) (q : Int) : Nat × Int :=
  let (num, den) := scaleDown m 1 (-q)
  searchGrid m q 18 (leadingExponent num den)

end Binary64

namespace Decimal

/-- How a format writes the digits of a number. -/
structure Layout where
  /-- The least exponent of the leading digit that is written positionally. -/
  leastPositional : Int
  /-- The greatest such exponent. -/
  greatestPositional : Int
  /-- The least number of digits of a written exponent. -/
  exponentWidth : Nat
  infinity : String
  nan : String

/-- Numbers in running text: always a point, an exponent below `0.0001` and
from `10^16` on. -/
def plain : Layout where
  leastPositional := -4
  greatestPositional := 15
  exponentWidth := 2
  infinity := "inf"
  nan := "nan"

/-- An exponent with its sign, filled with zeros to the given width. -/
def exponentText (width : Nat) (e : Int) : List Char :=
  let ds := digits e.natAbs
  (if e < 0 then '-' else '+') :: List.replicate (width - ds.length) '0' ++ ds

/-- Digits without the zeros at their end. -/
def significant (ds : List Char) : List Char :=
  (ds.reverse.dropWhile (· == '0')).reverse

/-- Lay out the digits `ds`, the leading one standing for `10^lead`. -/
def Layout.write (layout : Layout) (ds : List Char) (lead : Int) : List Char :=
  if layout.leastPositional ≤ lead ∧ lead ≤ layout.greatestPositional then
    if lead < 0 then
      '0' :: '.' :: List.replicate (-lead - 1).toNat '0' ++ ds
    else
      let whole := lead.toNat + 1
      let front := ds.take whole
      let back := ds.drop whole
      front ++ List.replicate (whole - front.length) '0' ++
        '.' :: (if back.isEmpty then ['0'] else back)
  else
    match ds with
    | [] => []
    | d :: rest =>
      d :: (if rest.isEmpty then [] else '.' :: rest) ++
        'e' :: exponentText layout.exponentWidth lead

end Decimal

namespace Binary64

open Decimal

/-- The text of a number in a layout. -/
def textIn (layout : Layout) (x : Binary64) : String :=
  let sign := if x.isNegative then "-" else ""
  match x with
  | .nan => layout.nan
  | .infinite _ => sign ++ layout.infinity
  | .finite _ m q _ =>
    if m = 0 then sign ++ String.ofList (layout.write ['0'] 0)
    else
      let (d, k) := shortest m q
      let ds := digits d
      sign ++ String.ofList (layout.write (significant ds) (k + (ds.length - 1)))

/-- The text of a number in the layout of running text. -/
def text (x : Binary64) : String := x.textIn plain

end Binary64

end ChainApi
