import ChainApi.Text.Case
import ChainApi.Text.Numeral
import ChainApi.Text.Point
import ChainApi.Url.Label

/-!
# ChainApi.Url

Which texts are addresses.  An address has a scheme, an authority, a path, and
possibly a query and a fragment, most of which may be left out.  The authority
names a host, with a user in front of it and a port after it.

* `Url.ofChars` — the parts of a text;
* `Url.isValid` — the texts that are addresses.
-/

namespace ChainApi

/-- The parts of an address that decide whether it is one. -/
structure Url where
  scheme : List Char := []
  user : List Char := []
  host : List Char := []
  port : List Char := []
  path : List Char := []
  deriving DecidableEq, Repr

namespace Url

/-! ## parts -/

/-- The characters of a scheme after its first letter. -/
def isSchemeChar (c : Char) : Bool := c.isAlphanum || c == '+' || c == '.' || c == '-'

/-- The scheme at the front of a text, which a colon ends, and what follows the colon.
It may be empty. -/
def splitScheme (cs : List Char) : List Char × List Char :=
  let scheme := if cs.head?.any Char.isAlpha then cs.takeWhile isSchemeChar else []
  match cs.drop scheme.length with
  | ':' :: rest => (scheme, rest)
  | _ => ([], cs)

/-- The parts of a text around the last occurrence of a character, if it occurs. -/
def splitLast (x : Char) (cs : List Char) : Option (List Char × List Char) :=
  if cs.contains x then
    let after := (cs.reverse.takeWhile (· != x)).reverse
    some (cs.take (cs.length - after.length - 1), after)
  else none

/-- The host at the front of an authority, and what follows it.  In brackets it may
hold colons. -/
def splitHost (cs : List Char) : List Char × List Char :=
  let plain := cs.takeWhile fun c => c != ':' && c != '@'
  match cs.head?, splitLast ']' cs with
  | some '[', some (inside, after) => (inside ++ [']'], after)
  | _, _ => (plain, cs.drop plain.length)

/-- An address with an authority. -/
def withAuthority (url : Url) (authority : List Char) : Url :=
  let (user, rest) := (splitLast '@' authority).getD ([], authority)
  let (host, rest) := splitHost rest
  let port := match rest with
    | ':' :: port => port
    | port => port
  { url with user, host, port }

/-- The parts of a text. -/
def ofChars (cs : List Char) : Url :=
  let (scheme, cs) := splitScheme cs
  let pathOf (cs : List Char) := cs.takeWhile fun c => c != '?' && c != '#'
  match cs with
  | '/' :: '/' :: rest =>
    let authority := rest.takeWhile fun c => c != '/' && c != '?' && c != '#'
    { scheme, path := pathOf (rest.drop authority.length) : Url }.withAuthority authority
  | _ => { scheme, path := pathOf cs }

/-! ## hosts -/

/-- Is this one of the four numbers of an address of the fourth version? -/
def isOctet (cs : List Char) : Bool :=
  !cs.isEmpty && cs.length ≤ 3 && cs.all Char.isDigit && (cs == ['0'] || cs.head? != some '0') &&
    cs.foldl (fun n d => n * 10 + (d.toNat - 48)) 0 < 256

/-- Is this an address of the fourth version? -/
def isVersion4 (cs : List Char) : Bool :=
  let octets := cs.splitOn '.'
  octets.length == 4 && octets.all isOctet

/-- Is this a hexadecimal digit? -/
def isHexDigit (c : Char) : Bool :=
  c.isDigit || ('a' ≤ c && c ≤ 'f') || ('A' ≤ c && c ≤ 'F')

/-- Is this one of the eight numbers of an address of the sixth version? -/
def isHextet (cs : List Char) : Bool := !cs.isEmpty && cs.length ≤ 4 && cs.all isHexDigit

/-- Is this an address of the sixth version, given by its parts between colons?  One
empty part may stand between two others, for as many zeros as are missing; a part beside
it that is alone on its side may then be empty too. -/
def areHextets (parts : List (List Char)) : Bool :=
  match (parts.drop 1).dropLast.findIdx? List.isEmpty with
  | none => parts.length == 8 && parts.all isHextet
  | some i =>
    let given (side : List (List Char)) := if side == [[]] then [] else side
    let numbers := given (parts.take (i + 1)) ++ given (parts.drop (i + 2))
    numbers.length ≤ 7 && numbers.all isHextet

/-- Is this an address of the sixth version?  Its end may be written like an address of
the fourth version, and a zone in ASCII may follow after a percent sign. -/
def isVersion6 (cs : List Char) : Bool :=
  let address := cs.takeWhile (· != '%')
  let zone := cs.drop address.length
  let parts := address.splitOn ':'
  let last := parts.getLast?.getD []
  let (ending, isEnding) : List (List Char) × Bool :=
    if last.contains '.' then ([['0'], ['0']], isVersion4 last) else ([last], true)
  let hasZone := zone.isEmpty ||
    (1 < zone.length && !(zone.drop 1).contains '%' && zone.all (·.toNat < 0x80))
  3 ≤ parts.length && hasZone && isEnding && areHextets (parts.dropLast ++ ending)

/-- Does a text look like four numbers with any character between them?  Of the states
that reading can be in, each is the number of separators so far and whether the
number after the last of them has begun. -/
def looksNumeric (cs : List Char) : Bool :=
  let step (states : List (Nat × Bool)) (c : Char) : List (Nat × Bool) :=
    (states.flatMap fun (k, begun) =>
      (if c.isDigit then [(k, true)] else []) ++ (if begun && k < 3 then [(k + 1, false)] else []))
      |>.eraseDups
  (cs.foldl step [(0, false)]).contains (3, true)

/-- The points between labels. -/
def isLabelPoint (c : Char) : Bool :=
  c == '.' || c == '\u3002' || c == '\uff0e' || c == '\uff61'

/-- The longest name of a host in ASCII, a point at its end apart. -/
def maxName : Nat := 253

/-- Is this the name of a host in which not all characters are ASCII?  A point may end
it. -/
def isInternational (cs : List Char) : Bool :=
  let labels := (cs.flatMap Text.lowered).splitOnP isLabelPoint
  let labels := if labels.getLast? == some [] then labels.dropLast else labels
  match labels.mapM asciiLabel? with
  | some written => !written.isEmpty && (List.intercalate ['.'] written).length ≤ maxName
  | none => false

/-- Is this a host? -/
def isHost (cs : List Char) : Bool :=
  if cs.isEmpty then true
  else if looksNumeric cs then isVersion4 cs
  else if cs.head? == some '[' && cs.getLast? == some ']' then isVersion6 (cs.drop 1).dropLast
  else if cs.all (·.toNat < 0x80) then true
  else isInternational cs

/-! ## addresses -/

/-- Is the path one that may stand by itself?  With nothing in front of it, two slashes
or a colon at its start would be taken for something else. -/
def isPathAllowed (url : Url) : Bool :=
  !url.scheme.isEmpty || !url.user.isEmpty || !url.host.isEmpty || !url.port.isEmpty ||
    !(['/', '/'].isPrefixOf url.path || url.path.head? == some ':')

/-- The longest address. -/
def maxLength : Nat := 65536

/-- Is this a control character? -/
def isControl (c : Char) : Bool := c.toNat < 0x20 || c.toNat == 0x7F

/-- Are these the characters of an address? -/
def areValid (cs : List Char) : Bool :=
  let url := ofChars cs
  cs.length ≤ maxLength && !cs.any isControl && isHost url.host &&
    (url.port.isEmpty || Text.Numeral.isInteger url.port) && url.isPathAllowed

/-- Is a text an address?  None holds half of a surrogate pair. -/
def isValid (text : String) : Bool := (Text.chars? text).any areValid

theorem isValid_of_chars? {text : String} {cs : List Char} (h : Text.chars? text = some cs) :
    isValid text = areValid cs := by
  rw [isValid, h, Option.any_some]

theorem isValid_of_hasHalf {text : String} (h : Text.hasHalf text = true) :
    isValid text = false := by
  rw [Text.hasHalf, Option.isNone_iff_eq_none] at h
  rw [isValid, h, Option.any_none]

end Url

end ChainApi
