import ChainApi.Notice
import ChainApi.Table

/-!
# ChainApi.Catalogue

The operations of several chains side by side.  For each operation id a
catalogue holds the method and comment of the operation and, per chain, its
endpoint and its parameter and response types.

* `Catalogue.merge` — two catalogues together; on a collision the left one wins;
* `merge_empty`, `empty_merge` — the empty catalogue is neutral;
* `merge_assoc` — the order of bracketing merges does not matter;
* `Catalogue.chainNames` — the chains that occur, in order of appearance.
-/

namespace ChainApi

/-- The methods of the operations in a catalogue. -/
inductive Method where
  | get
  | post
  deriving DecidableEq, Repr, Inhabited

/-- The name of a method. -/
def Method.label : Method → String
  | get => "get"
  | post => "post"

/-- The methods by name. -/
def Method.choices : List (String × Method) := [("get", .get), ("post", .post)]

/-- Where an operation is found on one chain. -/
structure Endpoint where
  /-- The path with types in place of its parameters. -/
  path : String
  /-- The path as the document has it. -/
  comment : String
  deriving DecidableEq, Repr, Inhabited

/-- One operation, with its endpoint and its types for each chain. -/
structure OperationTypes where
  method : Method
  comment : Option String := none
  endpoint : Table Endpoint := ∅
  /-- The types of the path parameters. -/
  path : Table String := ∅
  /-- The types of the query parameters. -/
  query : Table String := ∅
  /-- The types of the body. -/
  body : Table String := ∅
  /-- The types of the response to a success. -/
  success : Table String := ∅
  /-- The types of the response to a failure. -/
  error : Table String := ∅
  deriving DecidableEq, Inhabited

/-- Two records of one operation together.  The left one decides the method, and
the comment if it has one; what it holds for a chain takes precedence. -/
def OperationTypes.merge (a b : OperationTypes) : OperationTypes where
  method := a.method
  comment := a.comment.or b.comment
  endpoint := a.endpoint.union b.endpoint
  path := a.path.union b.path
  query := a.query.union b.query
  body := a.body.union b.body
  success := a.success.union b.success
  error := a.error.union b.error

/-- The first record decides the method, the first comment is kept, and each column is
a union, so that the order of bracketing does not matter. -/
theorem OperationTypes.merge_assoc (a b c : OperationTypes) :
    (a.merge b).merge c = a.merge (b.merge c) := by
  simp only [OperationTypes.merge, Table.union_assoc, Option.or_assoc]

/-- Operations by id, in order of first appearance. -/
abbrev Catalogue := Table OperationTypes

namespace Catalogue

/-- Two catalogues together: the operations of the left one first, then the new
ones of the right one. -/
def merge (a b : Catalogue) : Catalogue := Table.unionWith OperationTypes.merge a b

/-- What there is to say about merging two catalogues: each operation of the
right one whose method differs from that of the left one, which is kept. -/
def conflicts (a b : Catalogue) : List Notice :=
  b.entries.filterMap fun (id, incoming) =>
    (a.get? id).bind fun existing =>
      if existing.method = incoming.method then none
      else some (.methodConflict id existing.method.label incoming.method.label)

@[simp] theorem merge_empty (a : Catalogue) : merge a ∅ = a := by
  apply Table.ext
  simp [merge, Table.unionWith, Table.get?]

@[simp] theorem empty_merge (a : Catalogue) : merge ∅ a = a := by
  apply Table.ext
  simp [merge, Table.unionWith, Table.contains]

theorem merge_assoc (a b c : Catalogue) : merge (merge a b) c = merge a (merge b c) :=
  Table.unionWith_assoc OperationTypes.merge_assoc a b c

/-- The chains that occur in a catalogue, in order of first appearance. -/
def chainNames (c : Catalogue) : List String :=
  (c.values.flatMap fun r => r.endpoint.keys).eraseDups

@[simp] theorem chainNames_empty : chainNames ∅ = [] := rfl

end Catalogue

end ChainApi
