import ChainApi.Yaml.Node

/-!
# ChainApi.Yaml.Build

What the nodes of a YAML text denote.  A scalar is read at once; a list or mapping
is noted first and filled later, those noted first before the others, so that
it may contain itself.  The first fault met in this order counts.

A mapping may merge others under the key `<<`: what a mapping states itself takes
precedence, then the merged mappings in order.  Merging changes the node of the
mapping, and with it what an alias stands for from then on.

* `Build.flatten` — a mapping in which nothing is left to merge;
* `Build.fill` — the parts of a list or mapping;
* `Build.ofGraph` — what all nodes of a document denote.
-/

namespace ChainApi.Yaml

/-- A key of a mapping.  Values that are not equal to themselves are told apart by a
number. -/
structure Key where
  value : Value
  number : Nat := 0

/-- Do two keys name one entry of a mapping? -/
def Key.same (k l : Key) : Bool := k.value.sameKey l.value && k.number == l.number

/-- What a node denotes; parts are given by the numbers of their nodes. -/
inductive Datum where
  | scalar (key : Key)
  | list (items : List Nat)
  /-- A list of pairs. -/
  | pairs (items : List (Nat × Nat))
  | map (entries : List (Key × Nat))
  /-- A mapping of which only the keys matter. -/
  | set (entries : List (Key × Nat))
  deriving Inhabited

/-- Data that is being built. -/
structure Build where
  nodes : Nodes
  /-- What the nodes denote, where it is known. -/
  data : Array (Option Datum)
  /-- The lists and mappings in the order in which they are met. -/
  found : Array Nat := #[]
  /-- A bound on the number of merges. -/
  bound : Nat

/-- A step of building data. -/
abbrev Building := StateT Build (Except Fault)

namespace Build

/-! ## merging -/

/-- The node with a number. -/
def node (n : Nat) : Building Node := return (← get).nodes[n]?.getD .blank

/-- The entries of a node, if it is a mapping. -/
def entries? (n : Nat) : Building (Option (List (Nat × Nat))) := do
  match (← node n).content with
  | .mapping es => return some es
  | _ => return none

/-- Change the entries of a mapping. -/
def setEntries (n : Nat) (es : List (Nat × Nat)) : Building Unit :=
  modify fun b =>
    { b with nodes := b.nodes.modify n fun node => { node with content := .mapping es } }

/-- Take the first entry that is to be merged out of a mapping, and give its value. -/
def takeMerge (n : Nat) : Building (Option Nat) := do
  let nodes := (← get).nodes
  let isMerge (e : Nat × Nat) : Bool := (nodes[e.1]?.getD .blank).tag == .merge
  match ← entries? n with
  | some es =>
    match es.find? isMerge with
    | some e =>
      setEntries n (es.eraseP isMerge)
      return some e.2
    | none => return none
  | none => return none

/-- The marks of a default value among the keys of a mapping become ordinary keys. -/
def unmark (n : Nat) : Building Unit := do
  for e in (← entries? n).getD [] do
    modify fun b =>
      { b with nodes := b.nodes.modify e.1 fun node =>
        if node.tag == .value then { node with tag := .str } else node }

mutual

/-- Merge into a mapping whatever it is to be merged with.  The fuel bounds the number
of merges. -/
def flatten : Nat → Nat → Building Unit
  | 0, _ => throw .endless
  | fuel + 1, n => do
    let merged ← collect fuel n
    unmark n
    if !merged.isEmpty then setEntries n (merged ++ (← entries? n).getD [])

/-- The entries that are merged into a mapping, which loses the keys that ask for it. -/
def collect : Nat → Nat → Building (List (Nat × Nat))
  | 0, _ => throw .endless
  | fuel + 1, n => do
    match ← takeMerge n with
    | none => return []
    | some value =>
      let here ← mergedBy fuel value
      let others ← collect fuel n
      return here ++ others

/-- The entries that the value of a merge key stands for: those of a mapping, or of
the mappings of a sequence, the last of them first. -/
def mergedBy : Nat → Nat → Building (List (Nat × Nat))
  | 0, _ => throw .endless
  | fuel + 1, value => do
    match (← node value).content with
    | .mapping _ => flattened fuel value
    | .sequence items =>
      let parts ← items.mapM (flattened fuel)
      return parts.reverse.flatten
    | .scalar _ => throw .malformed

/-- The entries of a mapping once nothing is left to merge into it. -/
def flattened : Nat → Nat → Building (List (Nat × Nat))
  | 0, _ => throw .endless
  | fuel + 1, n => do
    if (← entries? n).isNone then throw .malformed
    flatten fuel n
    return (← entries? n).getD []

end

/-! ## scalars -/

/-- The text that a scalar is, or the default value of a mapping.  The fuel bounds the
number of mappings on the way; no more than there are nodes can lead further. -/
def scalarText : Nat → Nat → Building String
  | 0, _ => throw .endless
  | fuel + 1, n => do
    match (← node n).content with
    | .scalar text => return text
    | .sequence _ => throw .malformed
    | .mapping es =>
      let nodes := (← get).nodes
      match es.find? fun e => (nodes[e.1]?.getD .blank).tag == .value with
      | some e => scalarText fuel e.2
      | none => throw .malformed

/-- The value of a scalar with a tag. -/
def readScalar (tag : Tag) (text : String) : Except Fault Value :=
  match tag with
  | .null => .ok .null
  | .bool => .bool <$> Scalar.truth text.toList
  | .int => .int <$> Scalar.integer text.toList
  | .float => .real <$> Scalar.real text.toList
  | .timestamp => Scalar.timestamp text.toList
  | .str => .ok (.str text)
  | .binary =>
    match Text.Base64.decode? text.toList with
    | some bytes =>
      if text.toList.all (·.toNat < 0x80) then .ok (.bytes bytes) else .error .malformed
    | none => .error .malformed
  | _ => .error .malformed

/-- Is the tag one of those that are read as a scalar? -/
def isScalarTag : Tag → Bool
  | .null | .bool | .int | .float | .timestamp | .str | .binary => true
  | _ => false

/-- The key that a node read as a scalar makes.  What is spelled as no number is the
same for all nodes; what results from a computation is different for each. -/
def scalarKey (n : Nat) : Building Key := do
  let node ← node n
  if !isScalarTag node.tag then throw .malformed
  let text ← scalarText ((← get).nodes.size + 1) n
  match node.tag, node.content with
  | .timestamp, .mapping _ => throw .notScalar
  | tag, _ =>
    let value ← readScalar tag text
    let shared := Scalar.isNotANumber text.toList
    return ⟨value, if value == .real .nan && !shared then n + 1 else 0⟩

/-! ## building -/

/-- What a node denotes before it is filled. -/
def hollow? : Tag → Option Datum
  | .seq => some (.list [])
  | .map => some (.map [])
  | .set => some (.set [])
  | .omap | .pairs => some (.pairs [])
  | _ => none

/-- Note what a node denotes. -/
def note (n : Nat) (d : Datum) : Building Unit :=
  modify fun b => { b with data := b.data.setIfInBounds n (some d) }

/-- Meet a node: read it if it is a scalar, and otherwise note that it is to be
filled. -/
def meet (n : Nat) : Building Unit := do
  if ((← get).data[n]?.join).isSome then return
  match hollow? (← node n).tag with
  | some d =>
    note n d
    modify fun b => { b with found := b.found.push n }
  | none => note n (.scalar (← scalarKey n))

/-- The key that a node makes.  A list or a mapping makes none. -/
def key (n : Nat) : Building Key := do
  meet n
  match (← get).data[n]?.join with
  | some (.scalar k) => return k
  | _ => throw .malformed

/-- The entries of a mapping after one more is written: a key that is there keeps its
place and takes the new value. -/
def write (es : List (Key × Nat)) (k : Key) (v : Nat) : List (Key × Nat) :=
  if es.any fun e => e.1.same k then es.map fun e => if e.1.same k then (e.1, v) else e
  else es ++ [(k, v)]

/-- The entries that a node denotes. -/
def members (n : Nat) : Building (List (Key × Nat)) := do
  if (← entries? n).isNone then throw .malformed
  flatten (← get).bound n
  let es ← ((← entries? n).getD []).mapM fun e => do
    let k ← key e.1
    meet e.2
    return (k, e.2)
  return es.foldl (fun es e => write es e.1 e.2) []

/-- A pair is written as a mapping of one entry. -/
def pair (n : Nat) : Building (Nat × Nat) := do
  match ← entries? n with
  | some [(k, v)] =>
    meet k
    meet v
    return (k, v)
  | _ => throw .malformed

/-- Fill a list or mapping. -/
def fill (n : Nat) : Building Unit := do
  let node ← node n
  match node.tag, node.content with
  | .seq, .sequence items =>
    items.forM meet
    note n (.list items)
  | .map, _ => note n (.map (← members n))
  | .set, _ => note n (.set (← members n))
  | .omap, .sequence items | .pairs, .sequence items =>
    note n (.pairs (← items.mapM pair))
  | _, _ => throw .malformed

/-- Fill the lists and mappings from a place on.  The fuel bounds their number. -/
def fillAll : Nat → Nat → Building Unit
  | 0, _ => return
  | fuel + 1, i => do
    match (← get).found[i]? with
    | some n =>
      fill n
      fillAll fuel (i + 1)
    | none => return

/-- What the nodes of a document denote that can be reached from its root. -/
def ofGraph (g : Graph) : Except Fault (Array (Option Datum)) := do
  let count (node : Node) : Nat :=
    match node.content with
    | .mapping es => es.length
    | _ => 0
  let bound := 4 * g.nodes.foldl (fun n node => n + count node) 1
  let start : Build := { nodes := g.nodes, data := .replicate g.nodes.size none, bound }
  let ((), b) ← (do meet g.root; fillAll (g.nodes.size + 1) 0 : Building Unit).run start
  return b.data

end Build

end ChainApi.Yaml
