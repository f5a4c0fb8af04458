import ChainApi.Yaml.Build

/-!
# ChainApi.Yaml

The data that a YAML text denotes.  Lists and mappings that lead back to themselves
become knots; all others are built once, however often the text refers to them.

* `Weave.visit` — the value of a node;
* `Yaml.parse` — the data of a text; an empty text denotes `null`.
-/

namespace ChainApi.Yaml

namespace Weave

/-- What is known of a node while values are built. -/
inductive Seen where
  /-- Its parts are being built. -/
  | underway
  | value (v : Value)
  /-- It leads back to itself, and this is what it holds. -/
  | knot (content : Value)

/-- A step of building values. -/
abbrev Weaving := StateM (Array (Option Seen))

/-- Is a part of a value a knot?  Its other parts hold none. -/
def isTied : Value → Bool
  | .list vs => vs.any fun v =>
    match v with
    | .knot _ => true
    | .list ws => ws.any (· matches .knot _)
    | _ => false
  | .map es => es.any (·.2 matches .knot _)
  | _ => false

/-- The value of a node, given what all nodes denote.  The fuel bounds the number of
nodes on the way down. -/
def visit (data : Array (Option Datum)) : Nat → Nat → Weaving Value
  | 0, n => return .knot n
  | fuel + 1, n => do
    match (← get)[n]?.join with
    | some (.value v) => return v
    | some _ => return .knot n
    | none =>
      modify fun seen => seen.setIfInBounds n (some .underway)
      let v ← match data[n]?.join with
        | some (.scalar k) => pure k.value
        | some (.list items) => Value.list <$> items.mapM (visit data fuel)
        | some (.pairs items) =>
          Value.list <$> items.mapM fun p => do
            let k ← visit data fuel p.1
            let v ← visit data fuel p.2
            return Value.list [k, v]
        | some (.map es) =>
          Value.map <$> es.mapM fun e => do
            let v ← visit data fuel e.2
            return (e.1.value, v)
        | some (.set es) => pure (.list (es.map (·.1.value)))
        | none => pure .null
      if isTied v then
        modify fun seen => seen.setIfInBounds n (some (.knot v))
        return .knot n
      else
        modify fun seen => seen.setIfInBounds n (some (.value v))
        return v

/-- The knots among the nodes from a number on. -/
def knotsFrom : Nat → List (Option Seen) → Knots
  | _, [] => []
  | n, some (.knot v) :: seen => (n, v) :: knotsFrom (n + 1) seen
  | n, _ :: seen => knotsFrom (n + 1) seen

end Weave

/-- The data of a graph. -/
def Graph.toData (g : Graph) : Except Fault Data := do
  let data ← Build.ofGraph g
  let (v, seen) := (Weave.visit data (data.size + 1) g.root).run (.replicate data.size none)
  let knots := Weave.knotsFrom 0 seen.toList
  return ⟨knots.expose v, knots⟩

/-- The data of a text. -/
def parse (text : String) : Except Fault Data := do
  match ← Graph.ofTokens? (Token.ofText (Text.unifyNewlines text.toList)) with
  | some g => g.toData
  | none => .ok ⟨.null, []⟩

end ChainApi.Yaml
