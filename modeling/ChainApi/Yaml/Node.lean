import ChainApi.Yaml.Scalar
import ChainApi.Yaml.Token.Lexer

/-!
# ChainApi.Yaml.Node

What a YAML text describes, before its scalars are read: scalars, sequences and
mappings, each with the tag that says how to read it.  An alias stands for the
node that carries its anchor, which may be a node around it, so the nodes of a
document form a graph.  They are numbered, and a node refers to its parts by
their numbers.

* `Graph.ofTokens?` — the graph of a sequence of tokens; a text holds at most one
  document.
-/

namespace ChainApi.Yaml

/-- What a node consists of. -/
inductive Content where
  | scalar (text : String)
  | sequence (items : List Nat)
  | mapping (entries : List (Nat × Nat))
  deriving Inhabited, Repr

/-- A node of a document. -/
structure Node where
  /-- How the node is to be read. -/
  tag : Tag
  content : Content
  deriving Repr

/-- The scalar that stands where a node is left out. -/
def Node.blank : Node := ⟨.null, .scalar ""⟩

instance : Inhabited Node := ⟨.blank⟩

/-- The nodes of a document by their numbers. -/
abbrev Nodes := Array Node

/-- What a document describes. -/
structure Graph where
  nodes : Nodes
  /-- The number of the outermost node. -/
  root : Nat

/-- The handles that every document knows. -/
def defaultHandles : List (String × String) := [("!", "!"), ("!!", Tag.standard)]

/-- What is known while the tokens of a document are read. -/
structure Reader where
  tokens : List Token
  /-- What the handles of tags stand for. -/
  handles : List (String × String) := defaultHandles
  /-- The nodes so far.  Those that are still being read have no parts yet. -/
  nodes : Nodes := #[]
  /-- The nodes with an anchor. -/
  anchors : List (String × Nat) := []
  /-- How many sequences and mappings are being read. -/
  depth : Nat := 0

/-- A step of reading the tokens of a document. -/
abbrev Parse := StateT Reader (Except Fault)

namespace Parse

/-- Give up. -/
def fail : Parse α := throw .malformed

/-- The next token.  Where the text cannot be read on, neither can the tokens. -/
def peek : Parse Token := do
  match (← get).tokens with
  | [] => throw .malformed
  | .invalid fault :: _ => throw fault
  | t :: _ => return t

/-- Move over the next token. -/
def skip : Parse Unit := modify fun r => { r with tokens := r.tokens.drop 1 }

/-- Is the next token one of these? -/
def sees (ts : List Token) : Parse Bool := return ts.contains (← peek)

/-- Move over the next token, which has to be this one. -/
def expect (t : Token) : Parse Unit := do
  if (← peek) = t then skip else fail

/-- What stands in front of the content of a node. -/
structure Properties where
  anchor : Option String := none
  /-- The tag, written out in full. -/
  tag : Option String := none

/-- The full form of a tag. -/
def fullTag (handle : Option String) (suffix : String) : Parse String := do
  match handle with
  | none => return suffix
  | some handle =>
    match (← get).handles.lookup handle with
    | some front => return front ++ suffix
    | none => fail

/-- Read the anchor and the tag of a node, in either order. -/
def properties : Parse Properties := do
  match ← peek with
  | .anchor a =>
    skip
    match ← peek with
    | .tag h s =>
      skip
      return ⟨some a, some (← fullTag h s)⟩
    | _ => return ⟨some a, none⟩
  | .tag h s =>
    skip
    match ← peek with
    | .anchor a =>
      skip
      return ⟨some a, some (← fullTag h s)⟩
    | _ => return ⟨none, some (← fullTag h s)⟩
  | _ => return {}

/-- The tag of a node that is no scalar; `!` asks for nothing in particular. -/
def Properties.collectionTag (p : Properties) (default : Tag) : Tag :=
  match p.tag with
  | none => default
  | some name => if name = "!" then default else .ofName name

/-- The tag of a scalar.  Without one its spelling decides if it is plain; with `!`
the spelling decides in any case. -/
def Properties.scalarTag (p : Properties) (text : String) (plain : Bool) : Tag :=
  match p.tag with
  | none => if plain then .ofSpelling text else .str
  | some name => if name = "!" then .ofSpelling text else .ofName name

/-- Number a node without an anchor. -/
def number (node : Node) : Parse Nat :=
  modifyGet fun r => (r.nodes.size, { r with nodes := r.nodes.push node })

/-- Number a node.  No two nodes have one anchor. -/
def begin (p : Properties) (tag : Tag) (content : Content) : Parse Nat := do
  match p.anchor with
  | none => number ⟨tag, content⟩
  | some a =>
    if ((← get).anchors.lookup a).isSome then fail
    else
      let n ← number ⟨tag, content⟩
      modify fun r => { r with anchors := (a, n) :: r.anchors }
      return n

/-- Give a node its parts. -/
def complete (n : Nat) (content : Content) : Parse Nat := do
  modify fun r => { r with nodes := r.nodes.modify n fun node => { node with content } }
  return n

/-- The depth to which sequences and mappings may be nested. -/
def maxDepth : Nat := 488

/-- Read the parts of a sequence or a mapping. -/
def nested (parts : Parse α) : Parse α := do
  if maxDepth ≤ (← get).depth then throw .endless
  modify fun r => { r with depth := r.depth + 1 }
  let read ← parts
  modify fun r => { r with depth := r.depth - 1 }
  return read

/-- A node that is left out. -/
def blank : Parse Nat := number .blank

/-- The node that an alias stands for. -/
def resolveAlias (name : String) : Parse Nat := do
  match (← get).anchors.lookup name with
  | some n => return n
  | none => fail

/-- Where a node stands, which decides what it may be. -/
inductive Context where
  /-- Between brackets. -/
  | flow
  /-- In a block. -/
  | block
  /-- In a block mapping, where a sequence need not be indented. -/
  | member
  deriving DecidableEq

mutual

/-- Read a node. -/
def node (context : Context) : Nat → Parse Nat
  | 0 => fail
  | fuel + 1 => do
    match ← peek with
    | .alias name =>
      skip
      resolveAlias name
    | _ =>
      let p ← properties
      let sequence (items : Parse (List Nat)) : Parse Nat := do
        let n ← begin p (p.collectionTag .seq) (.sequence [])
        complete n (.sequence (← nested items))
      let mapping (entries : Parse (List (Nat × Nat))) : Parse Nat := do
        let n ← begin p (p.collectionTag .map) (.mapping [])
        complete n (.mapping (← nested entries))
      match ← peek with
      | .item => if context = .member then sequence (looseItems fuel) else empty p
      | .scalar text plain =>
        skip
        begin p (p.scalarTag text plain) (.scalar text)
      | .openSequence =>
        skip
        sequence (flowItems true fuel)
      | .openMapping =>
        skip
        mapping (flowMembers true fuel)
      | .blockSequence =>
        if context = .flow then empty p
        else
          skip
          sequence (blockItems fuel)
      | .blockMapping =>
        if context = .flow then empty p
        else
          skip
          mapping (blockMembers fuel)
      | _ => empty p

/-- A node without content, which needs an anchor or a tag. -/
def empty (p : Properties) : Parse Nat := do
  if p.anchor.isNone && p.tag.isNone then fail
  else begin p (p.scalarTag "" true) (.scalar "")

/-- Read a node, or take it for left out if one of the given tokens follows. -/
def nodeUnless (context : Context) (stops : List Token) : Nat → Parse Nat
  | 0 => fail
  | fuel + 1 => do if ← sees stops then blank else node context fuel

/-- The items of a block sequence up to its end. -/
def blockItems : Nat → Parse (List Nat)
  | 0 => fail
  | fuel + 1 => do
    if ← sees [.item] then
      skip
      let first ← nodeUnless .block [.item, .blockEnd] fuel
      let rest ← blockItems fuel
      return first :: rest
    else
      expect .blockEnd
      return []

/-- The items of a sequence that is not indented inside its mapping. -/
def looseItems : Nat → Parse (List Nat)
  | 0 => fail
  | fuel + 1 => do
    if ← sees [.item] then
      skip
      let first ← nodeUnless .block [.item, .key, .value, .blockEnd] fuel
      let rest ← looseItems fuel
      return first :: rest
    else return []

/-- The members of a block mapping up to its end.  Either the key or the value of a
member may be left out. -/
def blockMembers : Nat → Parse (List (Nat × Nat))
  | 0 => fail
  | fuel + 1 => do
    let stops : List Token := [.key, .value, .blockEnd]
    if ← sees [.blockEnd] then
      skip
      return []
    else
      expect .key
      let k ← nodeUnless .member stops fuel
      let v ←
        if ← sees [.value] then
          skip
          nodeUnless .member stops fuel
        else blank
      let rest ← blockMembers fuel
      return (k, v) :: rest

/-- The items between square brackets up to the closing one.  A key in front of an
item makes it a mapping of one member. -/
def flowItems (first : Bool) : Nat → Parse (List Nat)
  | 0 => fail
  | fuel + 1 => do
    if ← sees [.closeSequence] then
      skip
      return []
    else
      if !first then expect .comma
      if ← sees [.closeSequence] then
        skip
        return []
      else
        let item ←
          if ← sees [.key] then
            skip
            let member ← nested (flowPair fuel)
            number ⟨.map, .mapping [member]⟩
          else node .flow fuel
        let rest ← flowItems false fuel
        return item :: rest

/-- A mapping of one member between square brackets, whose key mark is read. -/
def flowPair : Nat → Parse (Nat × Nat)
  | 0 => fail
  | fuel + 1 => do
    let k ← nodeUnless .flow [.value, .comma, .closeSequence] fuel
    let v ←
      if ← sees [.value] then
        skip
        nodeUnless .flow [.comma, .closeSequence] fuel
      else blank
    return (k, v)

/-- The members between braces up to the closing one.  A member without a key mark
is a key without a value. -/
def flowMembers (first : Bool) : Nat → Parse (List (Nat × Nat))
  | 0 => fail
  | fuel + 1 => do
    if ← sees [.closeMapping] then
      skip
      return []
    else
      if !first then expect .comma
      if ← sees [.closeMapping] then
        skip
        return []
      else
        let member ←
          if ← sees [.key] then
            skip
            let k ← nodeUnless .flow [.value, .comma, .closeMapping] fuel
            let v ←
              if ← sees [.value] then
                skip
                nodeUnless .flow [.comma, .closeMapping] fuel
              else blank
            pure (k, v)
          else
            let k ← node .flow fuel
            pure (k, ← blank)
        let rest ← flowMembers false fuel
        return member :: rest

end

/-! ## documents -/

/-- Read the directives of a document. -/
def directives : Nat → Bool → List (String × String) → Parse Unit
  | 0, _, _ => fail
  | fuel + 1, versionSeen, handles => do
    match ← peek with
    | .version major _ =>
      skip
      if versionSeen || major != 1 then fail else directives fuel true handles
    | .handle handle front =>
      skip
      if (handles.lookup handle).isSome then fail
      else directives fuel versionSeen ((handle, front) :: handles)
    | .directive =>
      skip
      directives fuel versionSeen handles
    | _ => modify fun r => { r with handles := handles ++ defaultHandles }

/-- Does the next token announce a document? -/
def atStart : Parse Bool := do
  match ← peek with
  | .version .. | .handle .. | .directive | .documentStart => return true
  | _ => return false

/-- Does the next token show that the document has no content? -/
def atBoundary : Parse Bool := do
  if ← atStart then return true else sees [.documentEnd, .streamEnd]

/-- Move over the marks that end documents. -/
def skipEnds : Nat → Parse Unit
  | 0 => fail
  | fuel + 1 => do
    if ← sees [.documentEnd] then
      skip
      skipEnds fuel

/-- Read a text of at most one document.  A second one is refused once its
directives are read. -/
def document (fuel : Nat) : Parse (Option Graph) := do
  if ← sees [.streamEnd] then return none
  else
    let root ←
      if ← atStart then
        directives fuel false []
        expect .documentStart
        if ← atBoundary then blank else node .block fuel
      else node .block fuel
    skipEnds fuel
    if ← sees [.streamEnd] then return some ⟨(← get).nodes, root⟩
    else
      directives fuel false []
      fail

end Parse

/-- The graph of a sequence of tokens, if it describes any.  The fuel bounds the
number of steps; each of them is followed by moving over a token. -/
def Graph.ofTokens? (tokens : List Token) : Except Fault (Option Graph) :=
  (Parse.document (4 * tokens.length + 4)).run' { tokens }

end ChainApi.Yaml
