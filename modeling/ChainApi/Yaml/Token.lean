import ChainApi.Json
import ChainApi.Text.Encoding
import ChainApi.Yaml.Cursor

/-!
# ChainApi.Yaml.Token

The tokens of a YAML text, and the readers of those that are more than a mark:
directives, anchors, tags and scalars.  Every reader starts at the first
character of its token and gives the place after the last one.

* `Cursor.plain`, `Cursor.quoted`, `Cursor.block` — the three kinds of scalar.
-/

namespace ChainApi.Yaml

/-- A token. -/
inductive Token where
  /-- A directive that states the version of YAML. -/
  | version (major minor : Nat)
  /-- A directive that makes a handle stand for the front of a tag. -/
  | handle (handle front : String)
  /-- Any other directive. -/
  | directive
  | documentStart
  | documentEnd
  | blockSequence
  | blockMapping
  | blockEnd
  | openSequence
  | closeSequence
  | openMapping
  | closeMapping
  /-- A dash in front of an item of a block sequence. -/
  | item
  | comma
  /-- What follows is a key. -/
  | key
  /-- What follows is the value of the key before. -/
  | value
  | alias (name : String)
  | anchor (name : String)
  /-- A tag; one without a handle is written out in full. -/
  | tag (handle : Option String) (suffix : String)
  /-- A scalar; only a plain one may stand for something other than text. -/
  | scalar (text : String) (plain : Bool)
  | streamEnd
  /-- The text cannot be read any further. -/
  | invalid (fault : Fault)
  deriving DecidableEq, Repr

namespace Cursor

/-- The text at this place is not well formed. -/
def malformed : Except Fault α := .error .malformed

/-! ## names and tags -/

/-- The characters of the names of anchors, handles and directives. -/
def isNameChar (c : Char) : Bool := c.isAlphanum || c == '-' || c == '_'

/-- Read a name. -/
def name (c : Cursor) : Except Fault (String × Cursor) :=
  let cs := c.run isNameChar
  if cs.isEmpty then malformed else .ok (String.ofList cs, c.advance cs.length)

/-- Read an anchor or an alias after its mark. -/
def anchorName (c : Cursor) : Except Fault (String × Cursor) := do
  let (name, c) ← c.name
  let follows := match c.peek with
    | some x => "?:,]\x7d%@\x60".toList.contains x
    | none => false
  if endsWord c.peek || follows then .ok (name, c) else malformed

/-- The characters of a tag that stand for themselves. -/
def isUriChar (c : Char) : Bool := c.isAlphanum || "-;/?:@&=+$,_.!~*'()[]".toList.contains c

/-- Read a run of bytes that are written in hexadecimal after percent signs. -/
def escapedBytes : Nat → Cursor → Except Fault (List UInt8 × Cursor)
  | 0, _ => malformed
  | fuel + 1, c =>
    match c.rest with
    | '%' :: a :: b :: _ =>
      match Json.hexDigit? a, Json.hexDigit? b with
      | some a, some b => do
        let (bytes, c) ← escapedBytes fuel (c.advance 3)
        .ok (UInt8.ofNat (a * 16 + b) :: bytes, c)
      | _, _ => malformed
    | '%' :: _ => malformed
    | _ => .ok ([], c)

/-- Read the characters of a tag. -/
def uriChars : Nat → Cursor → Except Fault (List Char × Cursor)
  | 0, _ => malformed
  | fuel + 1, c =>
    if c.at? '%' then do
      let (bytes, c) ← escapedBytes (fuel + 1) c
      match Text.Utf8.decode? bytes with
      | none => malformed
      | some s =>
        let (rest, c) ← uriChars fuel c
        .ok (s.toList ++ rest, c)
    else
      let cs := c.run isUriChar
      if cs.isEmpty then .ok ([], c)
      else do
        let (rest, c) ← uriChars fuel (c.advance cs.length)
        .ok (cs ++ rest, c)

/-- Read a tag, or the part of it after the handle.  It may not be empty, but an
escape may stand for nothing. -/
def uri (fuel : Nat) (c : Cursor) : Except Fault (String × Cursor) := do
  let starts := match c.peek with
    | some x => isUriChar x || x == '%'
    | none => false
  if starts then
    let (cs, c) ← uriChars fuel c
    .ok (String.ofList cs, c)
  else malformed

/-- Read a handle: an exclamation mark, or a name between two of them. -/
def tagHandle (c : Cursor) : Except Fault (String × Cursor) :=
  if c.at? '!' then
    let c := c.next
    if c.at? ' ' then .ok ("!", c)
    else
      let cs := c.run isNameChar
      let c := c.advance cs.length
      if c.at? '!' then .ok ("!" ++ String.ofList cs ++ "!", c.next) else malformed
  else malformed

/-- Read a tag. -/
def tagToken (fuel : Nat) (c : Cursor) : Except Fault (Token × Cursor) := do
  let (token, c) ←
    if c.peekSecond == some '<' then do
      let (suffix, c) ← (c.advance 2).uri fuel
      if c.at? '>' then Except.ok (Token.tag none suffix, c.next) else malformed
    else if endsWord c.peekSecond then .ok (Token.tag none "!", c.next)
    else
      let word := c.next.run fun x => !(x == ' ' || isBreak x)
      if word.contains '!' then do
        let (handle, c) ← c.tagHandle
        let (suffix, c) ← c.uri fuel
        .ok (Token.tag (some handle) suffix, c)
      else do
        let (suffix, c) ← c.next.uri fuel
        .ok (Token.tag (some "!") suffix, c)
  if c.at? ' ' || endsLine c.peek then .ok (token, c) else malformed

/-! ## directives -/

/-- Move over a comment and the line break after it; nothing else may follow. -/
def endOfLine (c : Cursor) : Except Fault (Unit × Cursor) :=
  let c := c.skipSpaces
  let c := if c.at? '#' then c.skipLine else c
  if endsLine c.peek then
    .ok ((), match c.lineBreak? with
      | some (_, c) => c
      | none => c)
  else malformed

/-- Read a number of a version. -/
def versionNumber (c : Cursor) : Except Fault (Nat × Cursor) :=
  let ds := c.run Char.isDigit
  if ds.isEmpty then malformed
  else if Text.Numeral.maxDigits < ds.length then .error .badNumeral
  else .ok (Json.digitsValue ds, c.advance ds.length)

/-- Read a directive after the percent sign, up to the end of its line. -/
def directive (fuel : Nat) (c : Cursor) : Except Fault (Token × Cursor) := do
  let (name, c) ← c.name
  if !(c.at? ' ' || endsLine c.peek) then malformed
  else
    let (token, c) ←
      if name = "YAML" then do
        let (major, c) ← c.skipSpaces.versionNumber
        if c.at? '.' then
          let (minor, c) ← c.next.versionNumber
          if c.at? ' ' || endsLine c.peek then Except.ok (Token.version major minor, c)
          else malformed
        else malformed
      else if name = "TAG" then do
        let (handle, c) ← c.skipSpaces.tagHandle
        if c.at? ' ' then
          let (front, c) ← c.skipSpaces.uri fuel
          if c.at? ' ' || endsLine c.peek then Except.ok (Token.handle handle front, c)
          else malformed
        else malformed
      else .ok (Token.directive, c.skipLine)
    let (_, c) ← c.endOfLine
    .ok (token, c)

/-! ## plain scalars -/

/-- The characters that end a word inside brackets. -/
def isFlowMark (c : Char) : Bool := ",[]\x7b\x7d".toList.contains c

/-- The word of a plain scalar at the front of a text.  A colon ends it only where
it marks a value. -/
def plainWord (flow : Bool) : List Char → List Char
  | [] => []
  | x :: xs =>
    let follows := match xs.head? with
      | some y => isFlowMark y
      | none => false
    if isBlank x || isBreak x then []
    else if x == ':' && (endsWord xs.head? || (flow && follows)) then []
    else if flow && (isFlowMark x || x == '?') then []
    else x :: plainWord flow xs

/-- The line breaks after the first one, and the place after them; `none` if the
document ends in between. -/
def plainBreaks : Nat → Cursor → Option (List Char) × Cursor
  | 0, c => (some [], c)
  | fuel + 1, c =>
    if c.at? ' ' then plainBreaks fuel c.next
    else
      match c.lineBreak? with
      | some (b, c) =>
        if c.separator then (none, c)
        else
          let (breaks, c) := plainBreaks fuel c
          (breaks.map (b :: ·), c)
      | none => (some [], c)

/-- What separates two words of a text that is folded: a single line break becomes
a blank, and of several the first one is dropped. -/
def fold (first : Char) (breaks : List Char) : List Char :=
  if first ≠ '\n' then first :: breaks
  else if breaks.isEmpty then [' ']
  else breaks

/-- What stands between two words of a plain scalar, whether a line ended there,
and the place after it; nothing if the scalar ends. -/
def plainSpaces (fuel : Nat) (c : Cursor) : List Char × Bool × Cursor :=
  let blanks := c.run (· == ' ')
  let c := c.advance blanks.length
  match c.lineBreak? with
  | none => (blanks, false, c)
  | some (first, c) =>
    if c.separator then ([], true, c)
    else
      match plainBreaks fuel c with
      | (none, c) => ([], true, c)
      | (some breaks, c) => (fold first breaks, true, c)

/-- Read the words of a plain scalar.  Also tells whether the scalar is left at the
start of a line, given whether it is now. -/
def plainWords (flow : Bool) (indent : Int) :
    Nat → Bool → Cursor → List Char × Bool × Cursor
  | 0, newLine, c => ([], newLine, c)
  | fuel + 1, newLine, c =>
    let word := if c.at? '#' then [] else plainWord flow c.rest
    if word.isEmpty then ([], newLine, c)
    else
      let (spaces, newLine, c) := plainSpaces fuel (c.advance word.length)
      if spaces.isEmpty || c.at? '#' || (!flow && (c.column : Int) < indent) then
        (word, newLine, c)
      else
        let (rest, newLine, c) := plainWords flow indent fuel newLine c
        (if rest.isEmpty then word else word ++ spaces ++ rest, newLine, c)

/-- Read a plain scalar whose further lines are indented by at least `indent`. -/
def plain (flow : Bool) (indent : Int) (fuel : Nat) (c : Cursor) : String × Bool × Cursor :=
  let (text, newLine, c) := plainWords flow indent fuel false c
  (Text.ofChars text, newLine, c)

/-! ## quoted scalars -/

/-- The line breaks after the first one.  No document may end in between. -/
def quotedBreaks : Nat → Cursor → Except Fault (List Char × Cursor)
  | 0, _ => malformed
  | fuel + 1, c =>
    if c.separator then malformed
    else
      let c := c.skipWhile isBlank
      match c.lineBreak? with
      | some (b, c) => do
        let (breaks, c) ← quotedBreaks fuel c
        .ok (b :: breaks, c)
      | none => .ok ([], c)

/-- What stands between two words of a quoted scalar. -/
def quotedSpaces (fuel : Nat) (c : Cursor) : Except Fault (List Char × Cursor) :=
  let blanks := c.run isBlank
  let c := c.advance blanks.length
  match c.peek with
  | none => malformed
  | some _ =>
    match c.lineBreak? with
    | none => .ok (blanks, c)
    | some (first, c) => do
      let (breaks, c) ← quotedBreaks fuel c
      .ok (fold first breaks, c)

/-- The character of a one-letter escape. -/
def escape? : Char → Option Char
  | '0' => some '\x00'
  | 'a' => some '\x07'
  | 'b' => some '\x08'
  | 't' | '\t' => some '\t'
  | 'n' => some '\n'
  | 'v' => some '\x0b'
  | 'f' => some '\x0c'
  | 'r' => some '\r'
  | 'e' => some '\x1b'
  | ' ' => some ' '
  | '"' => some '"'
  | '\\' => some '\\'
  | '/' => some '/'
  | 'N' => some '\x85'
  | '_' => some '\xa0'
  | 'L' => some '\u2028'
  | 'P' => some '\u2029'
  | _ => none

/-- The number of digits of a numeric escape. -/
def escapeLength? : Char → Option Nat
  | 'x' => some 2
  | 'u' => some 4
  | 'U' => some 8
  | _ => none

/-- The number that hexadecimal digits denote. -/
def hexValue? (cs : List Char) : Option Nat :=
  cs.foldlM (fun n c => (Json.hexDigit? c).map (n * 16 + ·)) 0

/-- The point with a number. -/
def point (n : Nat) : Except Fault Text.Point :=
  match Text.Point.ofNat? n with
  | some p => .ok p
  | none => .error (if 0x80000000 ≤ n then .tooLarge else .badCharacter)

/-- Read a numeric escape after its letter. -/
def numericEscape (length : Nat) (c : Cursor) : Except Fault (Text.Point × Cursor) := do
  let ds := c.rest.take length
  match hexValue? ds with
  | some n =>
    if ds.length = length then
      let p ← point n
      .ok (p, c.advance length)
    else malformed
  | none => malformed

/-- Read an escape after the backslash.  A line break stands for nothing, together
with the blanks that follow it. -/
def escaped (fuel : Nat) (c : Cursor) : Except Fault (List Text.Point × Cursor) :=
  match c.peek with
  | none => malformed
  | some x =>
    match escape? x with
    | some y => .ok ([.char y], c.next)
    | none =>
      match escapeLength? x with
      | some length => do
        let (p, c) ← numericEscape length c.next
        .ok ([p], c)
      | none =>
        match c.lineBreak? with
        | some (_, c) => do
          let (breaks, c) ← quotedBreaks fuel c
          .ok (breaks.map .char, c)
        | none => malformed

/-- Read a quoted scalar after its opening quote. -/
def quotedPoints (double : Bool) : Nat → Cursor → Except Fault (List Text.Point × Cursor)
  | 0, _ => malformed
  | fuel + 1, c => do
    let quote := if double then '"' else '\''
    match c.peek with
    | none => malformed
    | some x =>
      let (chunk, c) ←
        if isBlank x || isBreak x then do
          let (spaces, c) ← quotedSpaces fuel c
          Except.ok (spaces.map Text.Point.char, c)
        else if x = quote && !double && c.peekSecond == some quote then
          .ok ([.char quote], c.advance 2)
        else if x = quote then .ok ([], c)
        else if double && x = '\\' then escaped fuel c.next
        else .ok ([.char x], c.next)
      if chunk.isEmpty && c.at? quote then .ok ([], c.next)
      else do
        let (rest, c) ← quotedPoints double fuel c
        .ok (chunk ++ rest, c)

/-- Read a quoted scalar. -/
def quoted (double : Bool) (fuel : Nat) (c : Cursor) : Except Fault (String × Cursor) := do
  let (ps, c) ← quotedPoints double fuel c.next
  .ok (Text.ofPoints ps, c)

/-! ## block scalars -/

/-- What happens to the line breaks at the end of a block scalar. -/
inductive Chomping where
  /-- None is kept. -/
  | strip
  /-- The first one is kept. -/
  | clip
  /-- All are kept. -/
  | keep
  deriving DecidableEq

/-- Read the mark for the line breaks at the end. -/
def chomping (c : Cursor) : Option (Chomping × Cursor) :=
  if c.at? '+' then some (.keep, c.next)
  else if c.at? '-' then some (.strip, c.next)
  else none

/-- Read the mark for the indentation. -/
def increment (c : Cursor) : Except Fault (Option Nat × Cursor) :=
  match c.peek with
  | some x =>
    if x.isDigit then
      if x = '0' then malformed else .ok (some (x.toNat - 48), c.next)
    else .ok (none, c)
  | none => .ok (none, c)

/-- Read the marks after the indicator of a block scalar, in either order. -/
def blockHeader (c : Cursor) : Except Fault ((Chomping × Option Nat) × Cursor) := do
  let ((chomp, inc), c) ←
    match c.chomping with
    | some (chomp, c) => do
      let (inc, c) ← c.increment
      Except.ok ((chomp, inc), c)
    | none => do
      let (inc, c) ← c.increment
      match inc, c.chomping with
      | some _, some (chomp, c) => Except.ok ((chomp, inc), c)
      | _, _ => .ok ((Chomping.clip, inc), c)
  if c.at? ' ' || endsLine c.peek then .ok ((chomp, inc), c) else malformed

/-- The line breaks in front of the first line, and the greatest indentation met
on the way. -/
def blockIndentation : Nat → Cursor → List Char × Nat × Cursor
  | 0, c => ([], 0, c)
  | fuel + 1, c =>
    if c.at? ' ' then
      let (breaks, deepest, after) := blockIndentation fuel c.next
      (breaks, max c.next.column deepest, after)
    else
      match c.lineBreak? with
      | some (b, c) =>
        let (breaks, deepest, c) := blockIndentation fuel c
        (b :: breaks, deepest, c)
      | none => ([], 0, c)

/-- Move over at most the indentation of the block. -/
def skipIndent (indent : Nat) (c : Cursor) : Cursor :=
  c.advance (min (c.run (· == ' ')).length (indent - c.column))

/-- The empty lines in front of the next line of the block. -/
def blockBreaks (indent : Nat) : Nat → Cursor → List Char × Cursor
  | 0, c => ([], c)
  | fuel + 1, c =>
    let c := skipIndent indent c
    match c.lineBreak? with
    | some (b, c) =>
      let (breaks, c) := blockBreaks indent fuel c
      (b :: breaks, c)
    | none => ([], c)

/-- The lines of a block scalar; `breaks` are the empty lines in front.  Gives the
text, the last line break and the empty lines after it. -/
def blockLines (folded : Bool) (indent : Nat) :
    Nat → List Char → Cursor → List Char × List Char × List Char × Cursor
  | 0, breaks, c => ([], [], breaks, c)
  | fuel + 1, breaks, c =>
    if c.column = indent && c.peek.isSome then
      let startsBlank := (c.peek.map isBlank).getD false
      let content := c.run fun x => !isBreak x
      let text := breaks ++ content
      let c := c.advance content.length
      let (lineBreak, c) := match c.lineBreak? with
        | some (b, c) => ([b], c)
        | none => ([], c)
      let (breaks, c) := blockBreaks indent fuel c
      if c.column = indent && c.peek.isSome then
        let nextBlank := (c.peek.map isBlank).getD false
        let joint :=
          if folded && lineBreak == ['\n'] && !startsBlank && !nextBlank then
            if breaks.isEmpty then [' '] else []
          else lineBreak
        let (rest, last, breaks, c) := blockLines folded indent fuel breaks c
        (text ++ joint ++ rest, last, breaks, c)
      else (text, lineBreak, breaks, c)
    else ([], [], breaks, c)

/-- Read a block scalar inside a block of the given indentation. -/
def block (folded : Bool) (parent : Int) (fuel : Nat) (c : Cursor) :
    Except Fault (String × Cursor) := do
  let ((chomp, inc), c) ← c.next.blockHeader
  let (_, c) ← c.endOfLine
  let least := (max (parent + 1) 1).toNat
  let (breaks, indent, c) :=
    match inc with
    | none =>
      let (breaks, deepest, c) := blockIndentation fuel c
      (breaks, max least deepest, c)
    | some inc =>
      let indent := least + inc - 1
      let (breaks, c) := blockBreaks indent fuel c
      (breaks, indent, c)
  let (text, last, breaks, c) := blockLines folded indent fuel breaks c
  let tail := match chomp with
    | .strip => []
    | .clip => last
    | .keep => last ++ breaks
  .ok (Text.ofChars (text ++ tail), c)

end Cursor

end ChainApi.Yaml
