import ChainApi.Yaml.Token

/-!
# ChainApi.Yaml.Token.Lexer

From a text to its tokens.  Blocks are opened and closed by indentation, so the
lexer keeps the columns of the open blocks.  That something is the key of a
mapping is known only at the colon after it: the lexer remembers, for every
level of brackets, where a key may have started, and puts the key mark there
when the colon comes.  A key stands on one line and has at most 1024 characters.

A token that may start a key is held back, with all that follow it, until this is
settled.  Where the text cannot be read on, the tokens that are held back are
lost.

* `Lexer.next` — one step, which reads one token;
* `Token.ofText` — the tokens of a text, ending with `streamEnd` or, where the
  text cannot be read on, with `invalid`.
-/

namespace ChainApi.Yaml

/-- A place where a key may have started. -/
structure Candidate where
  /-- The number of tokens in front of it. -/
  position : Nat
  /-- A key has to start here, since a block mapping is continued. -/
  required : Bool
  index : Nat
  line : Nat
  column : Nat

/-- What the lexer knows between two tokens. -/
structure Lexer where
  cursor : Cursor
  /-- A bound on the number of steps of the readers. -/
  fuel : Nat
  /-- The tokens so far, the latest first. -/
  tokens : List Token := []
  /-- How many tokens there are so far, kept at hand since every token that may
  start a key notes its place. -/
  count : Nat := 0
  /-- The column of the innermost open block. -/
  indent : Int := -1
  /-- The columns of the blocks around it, the innermost first. -/
  outer : List Int := []
  /-- May a key start here? -/
  keyAllowed : Bool := true
  /-- How many brackets are open; less than none after one too many is closed. -/
  level : Int := 0
  /-- Where a key may have started, by level. -/
  candidates : List (Int × Candidate) := []
  count_eq : count = tokens.length := by rfl

namespace Lexer

/-- Does the lexer stand inside brackets?  After a closing bracket too many it goes on
as if it did. -/
def inFlow (s : Lexer) : Bool := s.level != 0

/-- Add a token. -/
def emit (s : Lexer) (t : Token) : Lexer :=
  { s with tokens := t :: s.tokens, count := s.count + 1, count_eq := by simp [s.count_eq] }

/-- Move the cursor. -/
def moveTo (s : Lexer) (c : Cursor) : Lexer := { s with cursor := c }

/-- Say whether a key may start next. -/
def allowKey (s : Lexer) (allowed : Bool) : Lexer := { s with keyAllowed := allowed }

/-! ## indentation -/

/-- Close the blocks that are indented further than `column`. -/
def closeBlocks (column : Int) (s : Lexer) (indent : Int) : List Int → Lexer
  | [] => { s with indent, outer := [] }
  | i :: outer =>
    if column < indent then closeBlocks column (s.emit .blockEnd) i outer
    else { s with indent, outer := i :: outer }

/-- Close the blocks that are indented further than `column`.  Inside brackets
indentation does not count. -/
def unwind (s : Lexer) (column : Int) : Lexer :=
  if s.inFlow then s else closeBlocks column s s.indent s.outer

/-- Open a block at a column, unless one is open there: the lexer afterwards, and
whether a block was opened. -/
def openBlock (s : Lexer) (column : Nat) : Lexer × Bool :=
  if s.indent < column then ({ s with indent := column, outer := s.indent :: s.outer }, true)
  else (s, false)

/-! ## keys -/

/-- Where a key may have started on the current level. -/
def candidate (s : Lexer) : Option Candidate := s.candidates.lookup s.level

/-- Replace the candidate of the current level. -/
def setCandidate (s : Lexer) (k : Option Candidate) : Lexer :=
  let others := s.candidates.filter (·.1 != s.level)
  { s with candidates := k.toList.map (s.level, ·) ++ others }

/-- No key has started on the current level after all. -/
def forgetKey (s : Lexer) : Except Fault Lexer :=
  match s.candidate with
  | some k => if k.required then .error .malformed else .ok (s.setCandidate none)
  | none => .ok s

/-- A key may start here. -/
def saveKey (s : Lexer) : Except Fault Lexer :=
  let c := s.cursor
  let required := !s.inFlow && s.indent == (c.column : Int)
  if s.keyAllowed then do
    let s ← s.forgetKey
    .ok (s.setCandidate (some ⟨s.count, required, c.index, c.line, c.column⟩))
  else .ok s

/-- The longest key. -/
def maxKeyLength : Nat := 1024

/-- Is it too late for a key that may have started there? -/
def isStale (c : Cursor) (k : Candidate) : Bool :=
  k.line != c.line || k.index + maxKeyLength < c.index

/-- Forget the keys for which it is too late. -/
def dropStale (s : Lexer) : Except Fault Lexer :=
  if s.candidates.any fun k => isStale s.cursor k.2 && k.2.required then .error .malformed
  else .ok { s with candidates := s.candidates.filter fun k => !isStale s.cursor k.2 }

/-- Put tokens in front of all but the first `position` ones. -/
def insertAt (s : Lexer) (position : Nat) (ts : List Token) : Lexer :=
  let late := s.count - position
  { s with
    tokens := s.tokens.take late ++ ts.reverse ++ s.tokens.drop late
    count := s.count + ts.length
    count_eq := by
      have := s.count_eq
      simp only [List.length_append, List.length_take, List.length_reverse, List.length_drop]
      omega }

/-! ## the tokens -/

/-- Move over blanks, comments and line breaks.  A new line may start with a key. -/
def skipToToken : Nat → Lexer → Lexer
  | 0, s => s
  | fuel + 1, s =>
    let c := s.cursor.skipSpaces
    let c := if c.at? '#' then c.skipLine else c
    match c.lineBreak? with
    | some (_, c) => skipToToken fuel ((s.moveTo c).allowKey (s.keyAllowed || !s.inFlow))
    | none => s.moveTo c

/-- A line that starts or ends a document. -/
def documentMark (s : Lexer) (t : Token) : Except Fault Lexer := do
  let s ← (s.unwind (-1)).forgetKey
  .ok (((s.allowKey false).emit t).moveTo (s.cursor.advance 3))

/-- An opening bracket, which may itself start a key. -/
def openBracket (s : Lexer) (t : Token) : Except Fault Lexer := do
  let s ← s.saveKey
  let s := ((s.allowKey true).emit t).moveTo s.cursor.next
  .ok { s with level := s.level + 1 }

/-- A closing bracket. -/
def closeBracket (s : Lexer) (t : Token) : Except Fault Lexer := do
  let s ← s.forgetKey
  let s := ((s.allowKey false).emit t).moveTo s.cursor.next
  .ok { s with level := s.level - 1 }

/-- A comma between brackets. -/
def comma (s : Lexer) : Except Fault Lexer := do
  let s ← (s.allowKey true).forgetKey
  .ok ((s.emit .comma).moveTo s.cursor.next)

/-- A mark that opens a block unless one is open at its column. -/
def blockMark (s : Lexer) (opening : Token) : Except Fault Lexer :=
  if s.inFlow then .ok s
  else if !s.keyAllowed then .error .malformed
  else
    let (s, opened) := s.openBlock s.cursor.column
    .ok (if opened then s.emit opening else s)

/-- The dash of an item. -/
def item (s : Lexer) : Except Fault Lexer := do
  let s ← s.blockMark .blockSequence
  let s ← (s.allowKey true).forgetKey
  .ok ((s.emit .item).moveTo s.cursor.next)

/-- The question mark of a key. -/
def explicitKey (s : Lexer) : Except Fault Lexer := do
  let s ← s.blockMark .blockMapping
  let s ← (s.allowKey (!s.inFlow)).forgetKey
  .ok ((s.emit .key).moveTo s.cursor.next)

/-- The colon of a value.  If a key may have started before it, it did. -/
def value (s : Lexer) : Except Fault Lexer := do
  let s ←
    match s.candidate with
    | some k =>
      let s := s.setCandidate none
      let (s, opened) := if s.inFlow then (s, false) else s.openBlock k.column
      let marks := if opened then [Token.blockMapping, .key] else [.key]
      Except.ok ((s.insertAt k.position marks).allowKey false)
    | none => do
      let s ← s.blockMark .blockMapping
      (s.allowKey (!s.inFlow)).forgetKey
  .ok ((s.emit .value).moveTo s.cursor.next)

/-- A token that may start a key and after which none may. -/
def keyable (s : Lexer) (read : Cursor → Except Fault (Token × Cursor)) : Except Fault Lexer := do
  let s ← s.saveKey
  let (t, c) ← read s.cursor
  .ok (((s.allowKey false).emit t).moveTo c)

/-- A block scalar, after which a key may start. -/
def blockScalar (s : Lexer) (folded : Bool) : Except Fault Lexer := do
  let s ← (s.allowKey true).forgetKey
  let (text, c) ← s.cursor.block folded s.indent s.fuel
  .ok ((s.emit (.scalar text false)).moveTo c)

/-- A plain scalar, after which a key may start if it was left at a new line. -/
def plainScalar (s : Lexer) : Except Fault Lexer := do
  let s ← s.saveKey
  let (text, newLine, c) := s.cursor.plain s.inFlow (s.indent + 1) s.fuel
  .ok (((s.allowKey newLine).emit (.scalar text true)).moveTo c)

/-- The end of the text. -/
def endOfText (s : Lexer) : Except Fault Lexer := do
  let s ← (s.unwind (-1)).forgetKey
  .ok ({ s with candidates := [] }.emit .streamEnd)

/-- The marks with which no plain scalar starts, unless they are followed by
something else than a blank. -/
def isIndicator (x : Char) : Bool := "-?:,[]\x7b\x7d#&*!|>'\"%@\x60".toList.contains x

/-- Does a plain scalar start here? -/
def startsPlain (s : Lexer) (x : Char) : Bool :=
  !(isBlank x || isBreak x || isIndicator x) ||
    (!endsWord s.cursor.peekSecond && (x == '-' || (!s.inFlow && (x == '?' || x == ':'))))

/-- Read the token that starts with the character `x`. -/
def token (s : Lexer) (x : Char) : Except Fault Lexer :=
  let c := s.cursor
  let lineStart := c.column == 0
  let alone := endsWord c.peekSecond
  if x = '%' && lineStart then do
    let s ← (s.unwind (-1)).forgetKey
    let (t, c) ← c.next.directive s.fuel
    .ok (((s.allowKey false).emit t).moveTo c)
  else if lineStart && c.marker '-' then s.documentMark .documentStart
  else if lineStart && c.marker '.' then s.documentMark .documentEnd
  else if x = '[' then s.openBracket .openSequence
  else if x = '{' then s.openBracket .openMapping
  else if x = ']' then s.closeBracket .closeSequence
  else if x = '}' then s.closeBracket .closeMapping
  else if x = ',' then s.comma
  else if x = '-' && alone then s.item
  else if x = '?' && (s.inFlow || alone) then s.explicitKey
  else if x = ':' && (s.inFlow || alone) then s.value
  else if x = '*' then s.keyable fun c => do
    let (name, c) ← c.next.anchorName
    .ok (.alias name, c)
  else if x = '&' then s.keyable fun c => do
    let (name, c) ← c.next.anchorName
    .ok (.anchor name, c)
  else if x = '!' then s.keyable (Cursor.tagToken s.fuel)
  else if x = '|' && !s.inFlow then s.blockScalar false
  else if x = '>' && !s.inFlow then s.blockScalar true
  else if x = '\'' || x = '"' then s.keyable fun c => do
    let (text, c) ← c.quoted (x == '"') s.fuel
    .ok (.scalar text false, c)
  else if s.startsPlain x then s.plainScalar
  else .error .malformed

/-- Read one token. -/
def next (s : Lexer) : Except Fault Lexer := do
  let s ← (skipToToken s.fuel s).dropStale
  let s := s.unwind s.cursor.column
  match s.cursor.peek with
  | none => s.endOfText
  | some x => s.token x

/-- How many tokens are settled: those in front of the first that may start a key. -/
def settled (s : Lexer) : Nat := (s.candidates.map (·.2.position)).foldl min s.count

/-- The first tokens, after which the text cannot be read on. -/
def cut (s : Lexer) (length : Nat) (fault : Fault) : List Token :=
  (Token.invalid fault :: s.tokens.drop (s.count - length)).reverse

/-- The tokens from here on, together with those before, of which a number are
settled. -/
def run : Nat → Nat → Lexer → List Token
  | 0, n, s => s.cut n .malformed
  | fuel + 1, n, s =>
    match s.next with
    | .error fault => s.cut n fault
    | .ok s =>
      match s.tokens, s.dropStale with
      | .streamEnd :: _, _ => s.tokens.reverse
      | _, .error fault => s.cut n fault
      | _, .ok s => run fuel s.settled s

end Lexer

/-- The tokens of a text whose line breaks are all line feeds.  A byte order mark at
the front is passed over. -/
def Token.ofText (text : List Char) : List Token :=
  if text.all isAllowed then
    let fuel := text.length + 2
    let start : Cursor := { rest := text }
    let start := if start.at? '\uFEFF' then start.next else start
    Lexer.run fuel 0 { cursor := start, fuel }
  else [.invalid .malformed]

end ChainApi.Yaml
