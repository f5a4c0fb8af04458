import ChainApi.Text.Point

/-!
# ChainApi.Text.Encoding

From bytes to text and back: UTF-8, strictly or with a replacement for each
malformed sequence, and UTF-16 and UTF-32 in either byte order.  The loose forms
of the encodings also hold halves of surrogate pairs.

* `Utf8.decode?` — the characters of a well-formed byte string;
* `Utf8.decodeLossy` — the characters of any byte string;
* `Utf8.encode`, `Utf8.encodeText?` — the bytes of characters and of a text;
* `unifyNewlines` — every line break becomes a single line feed.
-/

namespace ChainApi.Text

namespace Utf8

/-- A character whose first bytes have been read: the value so far, how many
bytes are missing, and the bounds of the next one. -/
structure Pending where
  value : Nat
  missing : Nat
  low : UInt8
  high : UInt8

/-- What a first byte announces: a whole character, a pending one, or nothing
well formed.  Loosely, three bytes may also stand for a half of a pair. -/
def start (loose : Bool) (b : UInt8) : List (Option Nat) × Option Pending :=
  if b < 0x80 then ([some b.toNat], none)
  else if 0xC2 ≤ b ∧ b ≤ 0xDF then ([], some ⟨b.toNat - 0xC0, 1, 0x80, 0xBF⟩)
  else if b = 0xE0 then ([], some ⟨0, 2, 0xA0, 0xBF⟩)
  else if b = 0xED then ([], some ⟨0xD, 2, 0x80, if loose then 0xBF else 0x9F⟩)
  else if 0xE1 ≤ b ∧ b ≤ 0xEF then ([], some ⟨b.toNat - 0xE0, 2, 0x80, 0xBF⟩)
  else if b = 0xF0 then ([], some ⟨0, 3, 0x90, 0xBF⟩)
  else if b = 0xF4 then ([], some ⟨4, 3, 0x80, 0x8F⟩)
  else if 0xF1 ≤ b ∧ b ≤ 0xF3 then ([], some ⟨b.toNat - 0xF0, 3, 0x80, 0xBF⟩)
  else ([none], none)

/-- The code points of a byte string from a given state on, with `none` for each
longest malformed sequence. -/
def scan (loose : Bool) : Option Pending → List UInt8 → List (Option Nat)
  | none, [] => []
  | some _, [] => [none]
  | none, b :: bs => (start loose b).1 ++ scan loose (start loose b).2 bs
  | some p, b :: bs =>
    if p.low ≤ b ∧ b ≤ p.high then
      let value := p.value * 64 + (b.toNat - 0x80)
      if p.missing ≤ 1 then some value :: scan loose none bs
      else scan loose (some ⟨value, p.missing - 1, 0x80, 0xBF⟩) bs
    else none :: (start loose b).1 ++ scan loose (start loose b).2 bs

/-- The characters of a well-formed byte string. -/
def decode? (bs : List UInt8) : Option String :=
  ((scan false none bs).mapM (Option.map Char.ofNat)).map String.ofList

/-- The characters of a byte string, each malformed sequence shown as U+FFFD. -/
def decodeLossy (bs : List UInt8) : String :=
  String.ofList ((scan false none bs).map fun n => (n.map Char.ofNat).getD '\uFFFD')

/-- The text of a loosely encoded byte string. -/
def decodeText? (bs : List UInt8) : Option String :=
  ((scan true none bs).mapM (Option.bind · Point.ofNat?)).map ofPoints

/-- The bytes of characters. -/
def encode (s : String) : List UInt8 := s.toUTF8.data.toList

/-- The bytes of a text, if it holds no halves. -/
def encodeText? (s : String) : Option (List UInt8) :=
  (chars? s).map fun cs => encode (String.ofList cs)

@[simp] theorem decode?_nil : decode? [] = some "" := rfl

end Utf8

/-- The byte order of a multi-byte encoding. -/
inductive Endian where
  | big
  | little
  deriving DecidableEq

/-- The number that bytes denote in a byte order. -/
def Endian.value : Endian → List UInt8 → Nat
  | big, bs => bs.foldl (fun n b => n * 256 + b.toNat) 0
  | little, bs => bs.foldr (fun b n => n * 256 + b.toNat) 0

namespace Utf16

/-- The 16-bit units of a byte string of even length. -/
def units? (endian : Endian) : List UInt8 → Option (List Nat)
  | [] => some []
  | [_] => none
  | a :: b :: bs => (units? endian bs).map (endian.value [a, b] :: ·)

/-- The points of a sequence of units; a surrogate without its counterpart is a half
of a pair. -/
def points : List Nat → List Point
  | [] => []
  | [u] => (Point.ofNat? u).toList
  | u :: v :: us =>
    if 0xD800 ≤ u ∧ u < 0xDC00 ∧ 0xDC00 ≤ v ∧ v < 0xE000 then
      .char (Char.ofNat (0x10000 + (u - 0xD800) * 0x400 + (v - 0xDC00))) :: points us
    else (Point.ofNat? u).toList ++ points (v :: us)

/-- The text of a loosely encoded byte string. -/
def decodeText? (endian : Endian) (bs : List UInt8) : Option String :=
  (units? endian bs).map fun us => ofPoints (points us)

end Utf16

namespace Utf32

/-- The points of a byte string, four bytes each. -/
def points? (endian : Endian) : List UInt8 → Option (List Point)
  | [] => some []
  | a :: b :: c :: d :: bs => do
    let p ← Point.ofNat? (endian.value [a, b, c, d])
    let ps ← points? endian bs
    return p :: ps
  | _ => none

/-- The text of a loosely encoded byte string. -/
def decodeText? (endian : Endian) (bs : List UInt8) : Option String :=
  (points? endian bs).map ofPoints

end Utf32

/-- Every line break, written with a carriage return, a line feed or both,
becomes a line feed. -/
def unifyNewlines : List Char → List Char
  | [] => []
  | '\r' :: '\n' :: cs => '\n' :: unifyNewlines cs
  | c :: cs => (if c = '\r' then '\n' else c) :: unifyNewlines cs

end ChainApi.Text
