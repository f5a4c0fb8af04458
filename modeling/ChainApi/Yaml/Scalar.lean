import ChainApi.Json
import ChainApi.Text.Base64
import ChainApi.Text.Numeral
import ChainApi.Value
import ChainApi.Yaml.Cursor

/-!
# ChainApi.Yaml.Scalar

What the scalars of YAML 1.1 stand for.  A plain scalar is a truth value, a
number, nothing or a date if it is spelled like one, and text otherwise; a tag
may ask for a reading that the spelling does not suggest.

* `Tag.ofSpelling` — the reading that the spelling of a scalar suggests;
* `Scalar.integer`, `Scalar.real`, `Scalar.timestamp` — the readings themselves.
-/

namespace ChainApi.Yaml

/-- How a node is to be read. -/
inductive Tag where
  | null
  | bool
  | int
  | float
  | binary
  | timestamp
  | omap
  | pairs
  | set
  | str
  | seq
  | map
  /-- A key whose value is merged into the mapping around it. -/
  | merge
  /-- A key that holds the default value of a mapping. -/
  | value
  | other (name : String)
  deriving DecidableEq, Repr

/-- The tags with a fixed reading. -/
def Tag.known : List (String × Tag) :=
  [("null", null), ("bool", bool), ("int", int), ("float", float), ("binary", binary),
    ("timestamp", timestamp), ("omap", omap), ("pairs", pairs), ("set", set), ("str", str),
    ("seq", seq), ("map", map), ("merge", merge), ("value", value)]

/-- What the tags with a fixed reading start with. -/
def Tag.standard : String := "tag:yaml.org,2002:"

/-- The tag with a name that is written out in full. -/
def Tag.ofName (name : String) : Tag :=
  ((known.find? fun t => standard ++ t.1 == name).map Prod.snd).getD (.other name)

namespace Scalar

/-! ## spellings -/

/-- The text after a sign. -/
def unsigned : List Char → List Char
  | '+' :: cs => cs
  | '-' :: cs => cs
  | cs => cs

/-- Is this a digit or a mark between digits? -/
def isDigitOrMark (c : Char) : Bool := c.isDigit || c == '_'

/-- A digit followed by digits and marks. -/
def isDigitRun : List Char → Bool
  | [] => false
  | c :: cs => c.isDigit && cs.all isDigitOrMark

/-- Nothing, or an exponent with its sign. -/
def isExponent : List Char → Bool
  | [] => true
  | e :: s :: cs =>
    (e == 'e' || e == 'E') && (s == '+' || s == '-') && !cs.isEmpty && cs.all Char.isDigit
  | _ => false

/-- A fraction after its point, possibly with an exponent. -/
def isFraction (cs : List Char) : Bool := isExponent (cs.dropWhile isDigitOrMark)

/-- A number below sixty in one or two digits. -/
def isSixtieth : List Char → Bool
  | [a] => a.isDigit
  | [a, b] => '0' ≤ a && a ≤ '5' && b.isDigit
  | _ => false

/-- Sixtieths after colons, at least one, behind a whole number that satisfies a
test. -/
def isSexagesimal (whole : List Char → Bool) (cs : List Char) : Bool :=
  match cs.splitOn ':' with
  | first :: rest => whole first && !rest.isEmpty && rest.all isSixtieth
  | [] => false

/-- Is this spelled like a truth value? -/
def isBool (cs : List Char) : Bool :=
  ["yes", "Yes", "YES", "no", "No", "NO", "true", "True", "TRUE", "false", "False", "FALSE",
    "on", "On", "ON", "off", "Off", "OFF"].contains (String.ofList cs)

/-- Is this spelled like nothing? -/
def isNull (cs : List Char) : Bool :=
  ["~", "null", "Null", "NULL", ""].contains (String.ofList cs)

/-- Is this spelled like a number with a point? -/
def isFloat (cs : List Char) : Bool :=
  let us := unsigned cs
  let whole := us.takeWhile (· != '.')
  let rest := us.dropWhile (· != '.')
  match rest with
  | '.' :: fraction =>
    (isDigitRun whole && isFraction fraction) ||
      (cs.head? == some '.' && isDigitRun (fraction.takeWhile isDigitOrMark) &&
        isFraction fraction) ||
      (isSexagesimal isDigitRun whole && fraction.all isDigitOrMark) ||
      (whole.isEmpty && ["inf", "Inf", "INF"].contains (String.ofList fraction)) ||
      (cs.head? == some '.' && ["nan", "NaN", "NAN"].contains (String.ofList fraction))
  | _ => false

/-- A whole number that does not start with zero. -/
def isPositiveRun (cs : List Char) : Bool := isDigitRun cs && cs.head? != some '0'

/-- Is this spelled like an integer? -/
def isInt (cs : List Char) : Bool :=
  let us := unsigned cs
  let digitsIn (p : Char → Bool) (ds : List Char) : Bool :=
    !ds.isEmpty && ds.all fun c => p c || c == '_'
  us == ['0'] || isPositiveRun us || isSexagesimal isPositiveRun us ||
    match us with
    | '0' :: 'b' :: ds => digitsIn (fun c => c == '0' || c == '1') ds
    | '0' :: 'x' :: ds => digitsIn (fun c => (Json.hexDigit? c).isSome) ds
    | '0' :: ds => digitsIn (fun c => '0' ≤ c && c ≤ '7') ds
    | _ => false

/-! ## dates -/

/-- The parts of a point in time as they are written. -/
structure TimeParts where
  year : List Char
  month : List Char
  day : List Char
  /-- Hour, minute, second and fraction. -/
  time : Option (List Char × List Char × List Char × List Char) := none
  /-- Whether an offset is west of universal time, its hours and its minutes; an
  offset of zero has no hours. -/
  zone : Option (Bool × List Char × List Char) := none

/-- Between `least` and `most` digits at the front of a text. -/
def digits? (least most : Nat) (cs : List Char) : Option (List Char × List Char) :=
  let ds := (cs.take most).takeWhile Char.isDigit
  if least ≤ ds.length then some (ds, cs.drop ds.length) else none

/-- A mark at the front of a text. -/
def mark? (x : Char) : List Char → Option (List Char)
  | c :: cs => if c = x then some cs else none
  | [] => none

/-- The offset at the end of a point in time. -/
def zone? (cs : List Char) : Option (Option (Bool × List Char × List Char)) := do
  match cs.dropWhile isBlank with
  | [] => if cs.isEmpty then some none else none
  | ['Z'] => some (some (false, [], []))
  | s :: cs =>
    guard (s = '+' ∨ s = '-')
    let (hours, cs) ← digits? 1 2 cs
    match cs with
    | [] => some (some (s == '-', hours, []))
    | ':' :: cs =>
      let (minutes, cs) ← digits? 2 2 cs
      guard cs.isEmpty
      some (some (s == '-', hours, minutes))
    | _ => none

/-- The parts of a date or a point in time. -/
def timeParts? (cs : List Char) : Option TimeParts := do
  let (year, cs) ← digits? 4 4 cs
  let cs ← mark? '-' cs
  let (month, cs) ← digits? 1 2 cs
  let cs ← mark? '-' cs
  let (day, cs) ← digits? 1 2 cs
  match cs with
  | [] => return { year, month, day }
  | c :: rest =>
    guard (c = 'T' ∨ c = 't' ∨ isBlank c)
    let cs := if c = 'T' ∨ c = 't' then rest else rest.dropWhile isBlank
    let (hour, cs) ← digits? 1 2 cs
    let cs ← mark? ':' cs
    let (minute, cs) ← digits? 2 2 cs
    let cs ← mark? ':' cs
    let (second, cs) ← digits? 2 2 cs
    let (fraction, cs) := match cs with
      | '.' :: cs => (cs.takeWhile Char.isDigit, cs.dropWhile Char.isDigit)
      | cs => ([], cs)
    let zone ← zone? cs
    return { year, month, day, time := some (hour, minute, second, fraction), zone }

/-- Is this spelled like a date or a point in time?  A date alone has two digits for
month and day. -/
def isTimestamp (cs : List Char) : Bool :=
  match timeParts? cs with
  | some p => p.time.isSome || (p.month.length == 2 && p.day.length == 2)
  | none => false

/-! ## readings -/

/-- The text without marks between digits. -/
def unmarked (cs : List Char) : List Char := cs.filter (· != '_')

/-- The sign of a text, and the rest. -/
def signed : List Char → Bool × List Char
  | '-' :: cs => (true, cs)
  | '+' :: cs => (false, cs)
  | cs => (false, cs)

/-- The text after the letter that announces a base. -/
def withoutPrefix (letter : Char) : List Char → List Char
  | '0' :: c :: cs => if c.toLower = letter then cs else '0' :: c :: cs
  | cs => cs

/-- The integer that digits of a base denote. -/
def inBase (base : Nat) (letter : Option Char) (cs : List Char) : Except Fault Int :=
  let (negative, ds) := signed (Text.Numeral.plain cs)
  let ds := match letter with
    | some l => withoutPrefix l ds
    | none => ds
  let tooLong := base == 10 && Text.Numeral.maxDigits < ds.length
  let value := ds.foldlM (fun n c =>
    match Json.hexDigit? c with
    | some d => if d < base then some (n * base + d) else none
    | none => none) 0
  match value with
  | some n =>
    if ds.isEmpty || tooLong then .error .badNumeral
    else .ok (if negative then -(n : Int) else n)
  | none => .error .badNumeral

/-- A number in base sixty, from its digits. -/
def sexagesimal (ds : List Int) : Int := ds.foldl (fun n d => n * 60 + d) 0

/-- The integer that a scalar denotes. -/
def integer (text : List Char) : Except Fault Int := do
  let cs := unmarked text
  if cs.isEmpty then .error .emptyNumeral
  else
    let (negative, cs) := signed cs
    let value ←
      if cs = ['0'] then Except.ok 0
      else
        match cs with
        | [] => .error .emptyNumeral
        | '0' :: 'b' :: ds => inBase 2 (some 'b') ds
        | '0' :: 'x' :: ds => inBase 16 (some 'x') ds
        | '0' :: ds => inBase 8 (some 'o') ('0' :: ds)
        | cs =>
          if cs.contains ':' then do
            let ds ← (cs.splitOn ':').mapM (inBase 10 none)
            Except.ok (sexagesimal ds)
          else inBase 10 none cs
    .ok (if negative then -value else value)

/-- The number that a decimal numeral denotes. -/
def decimal (cs : List Char) : Except Fault Binary64 :=
  let (negative, cs) := signed (Text.Numeral.plain cs)
  let word := String.ofList (cs.map Char.toLower)
  if word = "inf" ∨ word = "infinity" then .ok (.infinite negative)
  else if word = "nan" then .ok .nan
  else
    let whole := cs.takeWhile Char.isDigit
    let cs := cs.dropWhile Char.isDigit
    let (fraction, cs) := match cs with
      | '.' :: cs => (cs.takeWhile Char.isDigit, cs.dropWhile Char.isDigit)
      | cs => ([], cs)
    let (exponent, cs) := Json.readExponent cs
    if (whole.isEmpty && fraction.isEmpty) || !cs.isEmpty then .error .badNumeral
    else
      .ok (.ofDecimal negative (Json.digitsValue (whole ++ fraction))
        (exponent.getD 0 - fraction.length))

/-- A number in base sixty, from its digits, the last of them first: each digit times
its power of sixty is added to the sum, with a rounding at every step.  The power
has to be a finite number, even if the digit is zero. -/
def sexagesimalReal : List Binary64 → Int → Binary64 → Except Fault Binary64
  | [], _, sum => .ok sum
  | d :: ds, base, sum =>
    match Binary64.ofInt base with
    | .infinite _ => .error .tooLarge
    | power => sexagesimalReal ds (base * 60) (sum.add (d.mul power))

/-- The double-precision number that a scalar denotes. -/
def real (text : List Char) : Except Fault Binary64 := do
  let cs := (unmarked text).map Char.toLower
  if cs.isEmpty then .error .emptyNumeral
  else
    let (negative, cs) := signed cs
    let value ←
      if cs = ".inf".toList then Except.ok (Binary64.infinite false)
      else if cs = ".nan".toList then .ok .nan
      else if cs.contains ':' then do
        let ds ← (cs.splitOn ':').mapM decimal
        sexagesimalReal ds.reverse 1 (.zero false)
      else decimal cs
    .ok (if negative then value.neg else value)

/-- Does a scalar name what is no number, rather than being computed to it? -/
def isNotANumber (text : List Char) : Bool :=
  (signed ((unmarked text).map Char.toLower)).2 == ".nan".toList

/-- The truth value that a scalar denotes, in any case. -/
def truth (text : List Char) : Except Fault Bool :=
  let word := String.ofList (text.map Char.toLower)
  if word = "yes" ∨ word = "true" ∨ word = "on" then .ok true
  else if word = "no" ∨ word = "false" ∨ word = "off" then .ok false
  else .error .badTruth

/-- A fraction of a second in microseconds; further digits are cut off. -/
def microseconds (ds : List Char) : Nat :=
  let ds := ds.take 6
  Json.digitsValue (ds ++ List.replicate (6 - ds.length) '0')

/-- The text without the line feed at its end, if there is one. -/
def withoutFinalBreak (cs : List Char) : List Char :=
  if cs.getLast? = some '\n' then cs.dropLast else cs

/-- The date or point in time that a scalar denotes. -/
def timestamp (text : List Char) : Except Fault Value :=
  match timeParts? (withoutFinalBreak text) with
  | none => .error .badDate
  | some p =>
    let number := Json.digitsValue
    match Date.ofParts? (number p.year) (number p.month) (number p.day) with
    | none => .error .badNumeral
    | some date =>
      match p.time with
      | none => .ok (.date date)
      | some (hour, minute, second, fraction) =>
        let offset := p.zone.map fun (west, hours, minutes) =>
          let o : Int := (number hours * 60 + number minutes : Nat)
          if west then -o else o
        match Timestamp.ofParts? date (number hour) (number minute) (number second)
            (microseconds fraction) offset with
        | some t => .ok (.timestamp t)
        | none => .error .badNumeral

end Scalar

open Scalar in
/-- The reading that the spelling of a scalar suggests.  The first character decides
which spellings are tried, and a line feed at the end does not count. -/
def Tag.ofSpelling (text : String) : Tag :=
  let starts (xs : String) : Bool :=
    match text.toList.head? with
    | some c => xs.toList.contains c
    | none => false
  let cs := withoutFinalBreak text.toList
  if starts "yYnNtTfFoO" && isBool cs then .bool
  else if starts "-+0123456789." && isFloat cs then .float
  else if starts "-+0123456789" && isInt cs then .int
  else if cs == ['<', '<'] then .merge
  else if (text == "" || starts "~nN") && isNull cs then .null
  else if starts "0123456789" && isTimestamp cs then .timestamp
  else if cs == ['='] then .value
  else if cs == ['!'] || cs == ['&'] || cs == ['*'] then .ofName (Tag.standard ++ "yaml")
  else .str

end ChainApi.Yaml
