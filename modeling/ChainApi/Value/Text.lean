import ChainApi.Value
import ChainApi.Text.Numeral
import ChainApi.Text.Point
import ChainApi.Text.Printable

/-!
# ChainApi.Value.Text

The text of decoded data, as it appears in messages, queries and requests.  A
text is shown as it is on its own and as a quoted literal inside a list or a
mapping; everything else has one spelling.

* `Value.text` — the spelling on its own;
* `Value.literal` — the spelling inside a larger value;
* `Value.text?` — the spelling on its own, which not all integers have.
-/

namespace ChainApi

namespace Text

/-- A number in lower-case hexadecimal digits, filled with zeros to a width. -/
def hex (width n : Nat) : List Char :=
  let ds := Nat.toDigits 16 n
  List.replicate (width - ds.length) '0' ++ ds

/-- One character inside a literal in the given quotes. -/
def literalChar (quote c : Char) : List Char :=
  if c = quote ∨ c = '\\' then ['\\', c]
  else if c = '\n' then ['\\', 'n']
  else if c = '\r' then ['\\', 'r']
  else if c = '\t' then ['\\', 't']
  else if isPrintable c then [c]
  else if c.toNat < 0x100 then '\\' :: 'x' :: hex 2 c.toNat
  else if c.toNat < 0x10000 then '\\' :: 'u' :: hex 4 c.toNat
  else '\\' :: 'U' :: hex 8 c.toNat

/-- One point of a text inside a literal in the given quotes. -/
def literalPoint (quote : Char) : Point → List Char
  | .char c => literalChar quote c
  | .half k => '\\' :: 'u' :: hex 4 (0xD800 + k)

/-- The quotes of a literal: single ones, unless the text holds these and no
double ones. -/
def literalQuote (s : List Char) : Char :=
  if s.contains '\'' && !s.contains '"' then '"' else '\''

/-- A text as a quoted literal. -/
def literal (s : String) : String :=
  let quote := literalQuote s.toList
  String.ofList (quote :: (pointsOf s).flatMap (literalPoint quote) ++ [quote])

/-- One byte inside a literal in the given quotes. -/
def literalByte (quote : Char) (b : UInt8) : List Char :=
  if 0x80 ≤ b then '\\' :: 'x' :: hex 2 b.toNat else literalChar quote (Char.ofNat b.toNat)

/-- A byte string as a quoted literal. -/
def literalBytes (bs : List UInt8) : String :=
  let quote := literalQuote (bs.map fun b => Char.ofNat b.toNat)
  String.ofList ('b' :: quote :: bs.flatMap (literalByte quote) ++ [quote])

end Text

/-- A call with its arguments. -/
private def callText (name : String) (args : List String) : String :=
  name ++ "(" ++ ", ".intercalate args ++ ")"

/-- A date inside a larger value. -/
def Date.literal (d : Date) : String :=
  callText "datetime.date" ([d.year, d.month, d.day].map toString)

/-- An offset from universal time inside a larger value. -/
def Timestamp.offsetLiteral (o : Int) : String :=
  if o = 0 then "datetime.timezone.utc"
  else
    let span :=
      if o < 0 then ["days=-1", "seconds=" ++ toString ((o + 24 * 60) * 60)]
      else ["seconds=" ++ toString (o * 60)]
    callText "datetime.timezone" [callText "datetime.timedelta" span]

/-- A point in time inside a larger value; seconds and microseconds are left out
from the end while they are zero. -/
def Timestamp.literal (t : Timestamp) : String :=
  let parts := [t.date.year, t.date.month, t.date.day, t.hour, t.minute]
  let rest :=
    if t.microsecond ≠ 0 then [t.second, t.microsecond]
    else if t.second ≠ 0 then [t.second]
    else []
  let zone := (t.offset.map fun o => "tzinfo=" ++ offsetLiteral o).toList
  callText "datetime.datetime" ((parts ++ rest).map toString ++ zone)

namespace Value

mutual

/-- The spelling of a value inside a larger one.  A knot is shown as three points. -/
def literal : Value → String
  | null => "None"
  | bool true => "True"
  | bool false => "False"
  | int i => toString i
  | real x => x.text
  | str s => Text.literal s
  | bytes bs => Text.literalBytes bs
  | date d => d.literal
  | timestamp t => t.literal
  | list items => "[" ++ ", ".intercalate (literals items) ++ "]"
  | map es => "\x7b" ++ ", ".intercalate (entryLiterals es) ++ "\x7d"
  | knot _ => "..."

/-- The spellings of the items of a list. -/
def literals : List Value → List String
  | [] => []
  | v :: vs => v.literal :: literals vs

/-- The spellings of the entries of a mapping. -/
def entryLiterals : List (Value × Value) → List String
  | [] => []
  | (k, v) :: es => (k.literal ++ ": " ++ v.literal) :: entryLiterals es

end

/-- The spelling of a value on its own: a text stands for itself, a point in time
is written with a blank before the time of day. -/
def text : Value → String
  | str s => s
  | date d => d.iso
  | timestamp t => t.isoWith " "
  | v => v.literal

/-! ## long integers -/

/-- Is the decimal numeral of an integer too long to be written? -/
def isLong (i : Int) : Bool :=
  3 * Text.Numeral.maxDigits < i.natAbs.log2 && pow10 Text.Numeral.maxDigits ≤ i.natAbs

mutual

/-- Is there an integer in a value that is too long to be written?  The fuel bounds the
number of knots on the way down, none of which is entered twice. -/
def isUnspellable (knots : Knots) : Nat → Value → Bool
  | _, int i => isLong i
  | fuel, list vs => hasUnspellable knots fuel vs
  | fuel, map es => hasUnspellableEntry knots fuel es
  | fuel + 1, knot n =>
    match knots.lookup n with
    | some v => isUnspellable (knots.filter (·.1 != n)) fuel v
    | none => false
  | _, _ => false

/-- Is there such an integer in one of the items? -/
def hasUnspellable (knots : Knots) : Nat → List Value → Bool
  | _, [] => false
  | fuel, v :: vs => isUnspellable knots fuel v || hasUnspellable knots fuel vs

/-- Is there such an integer in one of the entries? -/
def hasUnspellableEntry (knots : Knots) : Nat → List (Value × Value) → Bool
  | _, [] => false
  | fuel, (k, v) :: es =>
    isUnspellable knots fuel k || isUnspellable knots fuel v ||
      hasUnspellableEntry knots fuel es

end

/-- The spelling of a value on its own, unless an integer in it is too long to be written. -/
def text? : Value → Option String
  | str s => some s
  | v => if v.isUnspellable [] 0 then none else some v.text

theorem text?_eq (v : Value) : v.text? = if v.isUnspellable [] 0 then none else some v.text := by
  cases v with
  | str s => simp [text?, isUnspellable, text]
  | _ => simp only [text?]

theorem text?_eq_none_iff {v : Value} : v.text? = none ↔ v.isUnspellable [] 0 = true := by
  simp [text?_eq]

theorem text_of_text? {v : Value} {s : String} (h : v.text? = some s) : v.text = s := by
  rw [text?_eq] at h
  split at h
  · cases h
  · exact Option.some.inj h

@[simp] theorem text?_str (s : String) : (str s).text? = some s := rfl

@[simp] theorem text_str (s : String) : (str s).text = s := rfl

@[simp] theorem text_int (i : Int) : (int i).text = toString i := by simp [text, literal]

@[simp] theorem text_null : null.text = "None" := by simp [text, literal]

end Value

end ChainApi
