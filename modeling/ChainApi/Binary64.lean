/-!
# ChainApi.Binary64

Double-precision numbers as exact data: a finite number is `m · 2^q` with its
sign, and every operation is exact arithmetic followed by one rounding to the
nearest representable number, ties to the even significand.  Nothing here
depends on the machine's floating point.

* `ofRatio` — the representable number nearest to a quotient;
* `ofDecimal` — the number that a decimal numeral denotes;
* `toInt?` — the integer that a number is, if it is one.
-/

namespace ChainApi

/-- A power of two. -/
def pow2 (k : Nat) : Nat := Nat.pow 2 k

/-- A power of ten. -/
def pow10 (k : Nat) : Nat := Nat.pow 10 k

theorem pow10_le_pow10 {j k : Nat} (h : j ≤ k) : pow10 j ≤ pow10 k :=
  Nat.pow_le_pow_right (by decide) h

/-- Are `m` and `q` the significand and exponent of a representable number?
The significand has 53 bits, all of them used unless the exponent is least. -/
def Binary64.Canonical (m : Nat) (q : Int) : Prop :=
  m < pow2 53 ∧ -1074 ≤ q ∧ q ≤ 971 ∧ (q = -1074 ∨ pow2 52 ≤ m)

instance (m : Nat) (q : Int) : Decidable (Binary64.Canonical m q) :=
  inferInstanceAs (Decidable (_ ∧ _))

/-- A double-precision number. -/
inductive Binary64 where
  | nan
  | infinite (negative : Bool)
  /-- The number `m · 2^q`, negated if `negative`. -/
  | finite (negative : Bool) (m : Nat) (q : Int) (canonical : Binary64.Canonical m q)
  deriving DecidableEq

namespace Binary64

/-- Zero, of either sign. -/
def zero (negative : Bool) : Binary64 := .finite negative 0 (-1074) (by decide)

instance : Inhabited Binary64 := ⟨zero false⟩

/-- The number `m · 2^q` if it is representable, and infinity otherwise. -/
def pack (negative : Bool) (m : Nat) (q : Int) : Binary64 :=
  if h : Canonical m q then .finite negative m q h else .infinite negative

/-- A quotient rounded to the nearest integer, a half to the even one. -/
def roundQuotient (num den : Nat) : Nat :=
  let q := num / den
  let r := num % den
  if 2 * r < den ∨ (2 * r = den ∧ q % 2 = 0) then q else q + 1

/-- The two sides of the quotient `num / (den · 2^e)`, as natural numbers. -/
def scaleDown (num den : Nat) (e : Int) : Nat × Nat :=
  if 0 ≤ e then (num, den * pow2 e.toNat) else (num * pow2 (-e).toNat, den)

/-- The representable number nearest to `num / den`. -/
def ofRatio (negative : Bool) (num den : Nat) : Binary64 :=
  if num = 0 ∨ den = 0 then zero negative
  else
    let e := (num.log2 : Int) - den.log2 - 53
    let (a, b) := scaleDown num den e
    let e := if a / b < pow2 53 then e else e + 1
    let e := max e (-1074)
    let (a, b) := scaleDown num den e
    let m := roundQuotient a b
    if m = pow2 53 then pack negative (pow2 52) (e + 1) else pack negative m e

/-- The number that the decimal numeral `digits · 10^exponent` denotes.  Far
outside the representable range the answer is known without the arithmetic. -/
def ofDecimal (negative : Bool) (digits : Nat) (exponent : Int) : Binary64 :=
  if digits = 0 then zero negative
  else
    let width : Int := (digits.log2 / 4 : Nat)
    if 400 < exponent + width then .infinite negative
    else if exponent + 4 * width < -800 then zero negative
    else if 0 ≤ exponent then ofRatio negative (digits * pow10 exponent.toNat) 1
    else ofRatio negative digits (pow10 (-exponent).toNat)

/-- The representable number nearest to an integer. -/
def ofInt (i : Int) : Binary64 := ofRatio (i < 0) i.natAbs 1

/-! ## sign and size -/

/-- Is the sign of this number a minus? -/
def isNegative : Binary64 → Bool
  | nan => false
  | infinite s => s
  | finite s .. => s

/-- The number with the opposite sign. -/
def neg : Binary64 → Binary64
  | nan => nan
  | infinite s => .infinite !s
  | finite s m q h => .finite (!s) m q h

/-- Is this number zero, of either sign? -/
def isZero : Binary64 → Bool
  | finite _ m _ _ => m == 0
  | _ => false

/-- The integer that this number is, if it is one. -/
def toInt? : Binary64 → Option Int
  | finite s m q _ =>
    let magnitude :=
      if 0 ≤ q then some (m * pow2 q.toNat)
      else if m % pow2 (-q).toNat = 0 then some (m / pow2 (-q).toNat)
      else none
    magnitude.map fun n => if s then -(n : Int) else n
  | _ => none

/-! ## arithmetic -/

/-- A finite number as an exact multiple `n · 2^e` with `n` an integer. -/
def scaled : Binary64 → Option (Int × Int)
  | finite s m q _ => some (if s then -(m : Int) else m, q)
  | _ => none

/-- The representable number nearest to `n · 2^e`. -/
def ofScaled (n e : Int) : Binary64 :=
  if 0 ≤ e then ofRatio (n < 0) (n.natAbs * pow2 e.toNat) 1
  else ofRatio (n < 0) n.natAbs (pow2 (-e).toNat)

/-- The sum, rounded once. -/
def add (x y : Binary64) : Binary64 :=
  match x.scaled, y.scaled with
  | some (n, e), some (k, f) =>
    let d := min e f
    ofScaled (n * pow2 (e - d).toNat + k * pow2 (f - d).toNat) d
  | none, some _ => x
  | some _, none => y
  | none, none => if x = y then x else nan

/-- The product, rounded once. -/
def mul (x y : Binary64) : Binary64 :=
  match x.scaled, y.scaled with
  | some (n, e), some (k, f) =>
    let p := ofScaled (n * k) (e + f)
    if p.isZero then zero (x.isNegative != y.isNegative) else p
  | _, _ =>
    if x = nan ∨ y = nan ∨ x.isZero ∨ y.isZero then nan
    else .infinite (x.isNegative != y.isNegative)

@[simp] theorem isZero_zero (s : Bool) : (zero s).isZero = true := rfl

@[simp] theorem neg_neg (x : Binary64) : x.neg.neg = x := by
  cases x <;> simp [neg]

end Binary64

end ChainApi
