import ChainApi.Value
import ChainApi.Text.Encoding
import ChainApi.Text.Numeral

/-!
# ChainApi.Json

JSON texts.  The reader keeps the order of members, tells `2` from `2.0`, and
of two members with one name keeps the place of the first and the value of the
last.  It also reads the three numbers that JSON itself has no spelling for:
`NaN`, `Infinity` and `-Infinity`.

* `Json.parse?` — the value of a text;
* `Json.decode` — the value of a byte string in any Unicode encoding;
* `Json.write` — a text, in ASCII, for a value that JSON can hold.
-/

namespace ChainApi.Json

/-! ## reading -/

/-- Blanks between the parts of a text. -/
def isBlank (c : Char) : Bool := c == ' ' || c == '\t' || c == '\n' || c == '\r'

/-- The text without the blanks at its front. -/
def skipBlanks (cs : List Char) : List Char := cs.dropWhile isBlank

/-- The value of a hexadecimal digit. -/
def hexDigit? (c : Char) : Option Nat :=
  if c.isDigit then some (c.toNat - 48)
  else if 'a' ≤ c ∧ c ≤ 'f' then some (c.toNat - 87)
  else if 'A' ≤ c ∧ c ≤ 'F' then some (c.toNat - 55)
  else none

/-- The value of four hexadecimal digits. -/
def hex4? (a b c d : Char) : Option Nat := do
  let a ← hexDigit? a
  let b ← hexDigit? b
  let c ← hexDigit? c
  let d ← hexDigit? d
  return ((a * 16 + b) * 16 + c) * 16 + d

/-- The character of a one-letter escape. -/
def escape? : Char → Option Char
  | '"' => some '"'
  | '\\' => some '\\'
  | '/' => some '/'
  | 'b' => some '\x08'
  | 'f' => some '\x0c'
  | 'n' => some '\n'
  | 'r' => some '\r'
  | 't' => some '\t'
  | _ => none

/-- The text of a numeric escape in front of a text. -/
def consEscape (n : Nat) (cs : List Char) : List Char :=
  match Text.Point.ofNat? n with
  | some (.char c) => Text.consChar c cs
  | some (.half k) => Text.mark :: Text.halfChar k :: cs
  | none => cs

/-- The rest of a string literal after the opening quote: its characters, and
what follows the closing quote.  Control characters must be escaped, and a
character beyond the basic plane is escaped by a pair of surrogates.  A surrogate
that is escaped alone is a half of a pair. -/
def readString : List Char → Option (List Char × List Char)
  | [] => none
  | '"' :: cs => some ([], cs)
  | '\\' :: 'u' :: a :: b :: c :: d :: '\\' :: 'u' :: e :: f :: g :: h :: cs => do
    let u ← hex4? a b c d
    let v ← hex4? e f g h
    if 0xD800 ≤ u ∧ u < 0xDC00 ∧ 0xDC00 ≤ v ∧ v < 0xE000 then
      let (s, rest) ← readString cs
      return (consEscape (0x10000 + (u - 0xD800) * 0x400 + (v - 0xDC00)) s, rest)
    else
      let (s, rest) ← readString ('\\' :: 'u' :: e :: f :: g :: h :: cs)
      return (consEscape u s, rest)
  | '\\' :: 'u' :: a :: b :: c :: d :: cs => do
    let u ← hex4? a b c d
    let (s, rest) ← readString cs
    return (consEscape u s, rest)
  | '\\' :: e :: cs => do
    let c ← escape? e
    let (s, rest) ← readString cs
    return (c :: s, rest)
  | c :: cs => do
    guard (0x20 ≤ c.toNat ∧ c ≠ '\\')
    let (s, rest) ← readString cs
    return (if cs.head?.any Text.isAfterMark then c :: s else Text.consChar c s, rest)

/-- The number that decimal digits denote. -/
def digitsValue (ds : List Char) : Nat := ds.foldl (fun n d => n * 10 + (d.toNat - 48)) 0

/-- A sign at the front of an exponent. -/
def readSign : List Char → Bool × List Char
  | '-' :: cs => (true, cs)
  | '+' :: cs => (false, cs)
  | cs => (false, cs)

/-- The fraction at the front of a text: its digits, if there is one. -/
def readFraction (cs : List Char) : Option (List Char) × List Char :=
  match cs with
  | '.' :: rest =>
    let ds := rest.takeWhile Char.isDigit
    if ds.isEmpty then (none, cs) else (some ds, rest.dropWhile Char.isDigit)
  | _ => (none, cs)

/-- The exponent at the front of a text, if there is one. -/
def readExponent (cs : List Char) : Option Int × List Char :=
  match cs with
  | e :: rest =>
    if e = 'e' ∨ e = 'E' then
      let (negative, rest) := readSign rest
      let ds := rest.takeWhile Char.isDigit
      if ds.isEmpty then (none, cs)
      else
        let n : Int := digitsValue ds
        (some (if negative then -n else n), rest.dropWhile Char.isDigit)
    else (none, cs)
  | [] => (none, cs)

/-- A number at the front of a text.  A fraction or an exponent makes it a
double-precision number, rounded to the nearest; otherwise it is an integer of
any size up to `Text.Numeral.maxDigits` digits. -/
def readNumber (cs : List Char) : Option (Value × List Char) :=
  let negative := cs.head? == some '-'
  let cs := if negative then cs.drop 1 else cs
  let whole := if cs.head? == some '0' then ['0'] else cs.takeWhile Char.isDigit
  if whole.isEmpty then none
  else
    let cs := cs.drop whole.length
    let (fraction, cs) := readFraction cs
    let (exponent, cs) := readExponent cs
    if fraction.isNone ∧ exponent.isNone then
      if Text.Numeral.maxDigits < whole.length then none
      else
        let n : Int := digitsValue whole
        some (.int (if negative then -n else n), cs)
    else
      let digits := fraction.getD []
      some (.real (.ofDecimal negative (digitsValue (whole ++ digits))
        (exponent.getD 0 - digits.length)), cs)

/-- The value of a word with a fixed meaning at the front of a text. -/
def readWord (cs : List Char) : Option (Value × List Char) :=
  let words : List (List Char × Value) :=
    [("null".toList, .null), ("true".toList, .bool true), ("false".toList, .bool false),
      ("NaN".toList, .real .nan), ("Infinity".toList, .real (.infinite false)),
      ("-Infinity".toList, .real (.infinite true))]
  words.findSome? fun w =>
    if w.1.isPrefixOf cs then some (w.2, cs.drop w.1.length) else none

/-- Why a text has no value. -/
inductive Failure where
  | malformed
  /-- Its lists and objects are nested too deeply. -/
  | tooDeep
  deriving DecidableEq, Repr

/-- A part of a text that must be there. -/
def expected : Option α → Except Failure α
  | some a => .ok a
  | none => .error .malformed

mutual

/-- A value at the front of a text that starts without blanks, with lists and objects
nested up to a depth.  The fuel bounds the number of steps; the length of the text is
enough. -/
def readValue : (fuel depth : Nat) → List Char → Except Failure (Value × List Char)
  | 0, _, _ => .error .malformed
  | fuel + 1, depth, cs =>
    match cs, depth with
    | '"' :: rest, _ => (expected (readString rest)).map fun r => (.str (String.ofList r.1), r.2)
    | '[' :: _, 0 => .error .tooDeep
    | '[' :: rest, depth + 1 =>
      match skipBlanks rest with
      | ']' :: rest => .ok (.list [], rest)
      | rest => (readItems fuel depth rest).map fun r => (.list r.1, r.2)
    | '{' :: _, 0 => .error .tooDeep
    | '{' :: rest, depth + 1 =>
      match skipBlanks rest with
      | '}' :: rest => .ok (.map [], rest)
      | rest => (readMembers fuel depth [] rest).map fun r => (.map r.1, r.2)
    | _, _ => expected ((readWord cs).or (readNumber cs))

/-- The items of a list up to its closing bracket. -/
def readItems : (fuel depth : Nat) → List Char → Except Failure (List Value × List Char)
  | 0, _, _ => .error .malformed
  | fuel + 1, depth, cs => do
    let (v, rest) ← readValue fuel depth cs
    match skipBlanks rest with
    | ']' :: rest => return ([v], rest)
    | ',' :: rest =>
      let (vs, rest) ← readItems fuel depth (skipBlanks rest)
      return (v :: vs, rest)
    | _ => throw .malformed

/-- The members of an object up to its closing brace, added to those read so
far. -/
def readMembers : (fuel depth : Nat) → List (Value × Value) → List Char →
    Except Failure (List (Value × Value) × List Char)
  | 0, _, _, _ => .error .malformed
  | fuel + 1, depth, members, cs =>
    match cs with
    | '"' :: rest => do
      let (name, rest) ← expected (readString rest)
      match skipBlanks rest with
      | ':' :: rest =>
        let (v, rest) ← readValue fuel depth (skipBlanks rest)
        let members := Value.writeEntry members (.str (String.ofList name)) v
        match skipBlanks rest with
        | '}' :: rest => return (members, rest)
        | ',' :: rest => readMembers fuel depth members (skipBlanks rest)
        | _ => throw .malformed
      | _ => throw .malformed
    | _ => .error .malformed

end

/-- The value of a JSON text with lists and objects nested up to a depth. -/
def parse (depth : Nat) (s : String) : Except Failure Value := do
  let cs := s.toList
  let (v, rest) ← readValue (2 * cs.length + 1) depth (skipBlanks cs)
  if (skipBlanks rest).isEmpty then return v else throw .malformed

/-- The value of a JSON text, however deeply it is nested. -/
def parse? (s : String) : Option Value := (parse s.length s).toOption

/-! ## encodings -/

/-- The text of a byte string whose encoding is told by a byte order mark or by
the zero bytes among its first four. -/
def text? (bs : List UInt8) : Option String :=
  match bs with
  | 0 :: 0 :: 0xFE :: 0xFF :: rest => Text.Utf32.decodeText? .big rest
  | 0xFF :: 0xFE :: 0 :: 0 :: rest => Text.Utf32.decodeText? .little rest
  | 0xFE :: 0xFF :: rest => Text.Utf16.decodeText? .big rest
  | 0xFF :: 0xFE :: rest => Text.Utf16.decodeText? .little rest
  | 0xEF :: 0xBB :: 0xBF :: rest => Text.Utf8.decodeText? rest
  | a :: b :: c :: d :: _ =>
    if a = 0 then
      if b = 0 then Text.Utf32.decodeText? .big bs else Text.Utf16.decodeText? .big bs
    else if b = 0 then
      if c = 0 ∧ d = 0 then Text.Utf32.decodeText? .little bs else Text.Utf16.decodeText? .little bs
    else Text.Utf8.decodeText? bs
  | [a, b] =>
    if a = 0 then Text.Utf16.decodeText? .big bs
    else if b = 0 then Text.Utf16.decodeText? .little bs
    else Text.Utf8.decodeText? bs
  | _ => Text.Utf8.decodeText? bs

/-- The depth to which the lists and objects of a byte string may be nested. -/
def maxDepth : Nat := 985

/-- The value of a byte string that holds a JSON text. -/
def decode (bs : List UInt8) : Except Failure Value := do parse maxDepth (← expected (text? bs))

/-! ## writing -/

/-- Four hexadecimal digits. -/
def hex4 (n : Nat) : List Char :=
  [n / 0x1000 % 16, n / 0x100 % 16, n / 0x10 % 16, n % 16].map Nat.digitChar

/-- One character inside a string literal.  All but printable ASCII is escaped, a
character beyond the basic plane by a pair of surrogates. -/
def writeChar (c : Char) : List Char :=
  let n := c.toNat
  if c = '"' ∨ c = '\\' then ['\\', c]
  else if 0x20 ≤ n ∧ n < 0x7f then [c]
  else if n < 0x10000 then '\\' :: 'u' :: hex4 n
  else
    '\\' :: 'u' :: hex4 (0xD800 + (n - 0x10000) / 0x400) ++
      '\\' :: 'u' :: hex4 (0xDC00 + (n - 0x10000) % 0x400)

/-- One point of a text inside a string literal. -/
def writePoint : Text.Point → List Char
  | .char c => writeChar c
  | .half k => '\\' :: 'u' :: hex4 (0xD800 + k)

/-- A string literal. -/
def writeString (s : String) : String :=
  "\"" ++ String.ofList ((Text.pointsOf s).flatMap writePoint) ++ "\""

/-- A number; those beyond JSON have a spelling of their own. -/
def writeNumber : Binary64 → String
  | .nan => "NaN"
  | .infinite false => "Infinity"
  | .infinite true => "-Infinity"
  | x => x.text

mutual

/-- The text of a value.  Bytes, dates and keys that are no text are outside
JSON and leave `null`. -/
def write : Value → String
  | .null => "null"
  | .bool b => if b then "true" else "false"
  | .int i => toString i
  | .real x => writeNumber x
  | .str s => writeString s
  | .list vs => "[" ++ ", ".intercalate (writeItems vs) ++ "]"
  | .map es => "\x7b" ++ ", ".intercalate (writeMembers es) ++ "\x7d"
  | _ => "null"

/-- The texts of the items of a list. -/
def writeItems : List Value → List String
  | [] => []
  | v :: vs => write v :: writeItems vs

/-- The texts of the members of an object. -/
def writeMembers : List (Value × Value) → List String
  | [] => []
  | (.str k, v) :: es => (writeString k ++ ": " ++ write v) :: writeMembers es
  | (_, v) :: es => (writeString "null" ++ ": " ++ write v) :: writeMembers es

end

end ChainApi.Json
