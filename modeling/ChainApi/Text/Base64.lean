/-!
# ChainApi.Text.Base64

Bytes written in base 64.  Characters outside the alphabet are passed over, and
padding ends the text as soon as it completes a group of four.
-/

namespace ChainApi.Text.Base64

/-- The value of a character of the alphabet. -/
def value? (c : Char) : Option Nat :=
  if 'A' ≤ c ∧ c ≤ 'Z' then some (c.toNat - 65)
  else if 'a' ≤ c ∧ c ≤ 'z' then some (c.toNat - 71)
  else if c.isDigit then some (c.toNat + 4)
  else if c = '+' then some 62
  else if c = '/' then some 63
  else none

/-- The bytes of a text of which `place` characters of a group have been read,
the last of them leaving the bits `left`, with `pads` padding marks after it. -/
def decodeFrom (place left pads : Nat) : List Char → Option (List UInt8)
  | [] => if place = 0 then some [] else none
  | c :: cs =>
    if c = '=' then
      if 2 ≤ place then
        if 4 ≤ place + pads + 1 then some [] else decodeFrom place left (pads + 1) cs
      else decodeFrom place left pads cs
    else
      match value? c, place with
      | none, _ => decodeFrom place left pads cs
      | some n, 0 => decodeFrom 1 n 0 cs
      | some n, 1 => (decodeFrom 2 (n % 16) 0 cs).map (UInt8.ofNat (left * 4 + n / 16) :: ·)
      | some n, 2 => (decodeFrom 3 (n % 4) 0 cs).map (UInt8.ofNat (left * 16 + n / 4) :: ·)
      | some n, _ => (decodeFrom 0 0 0 cs).map (UInt8.ofNat (left * 64 + n) :: ·)

/-- The bytes of a text. -/
def decode? (cs : List Char) : Option (List UInt8) := decodeFrom 0 0 0 cs

end ChainApi.Text.Base64
