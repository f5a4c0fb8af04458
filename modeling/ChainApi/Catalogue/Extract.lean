import ChainApi.Catalogue
import ChainApi.Parameters

/-!
# ChainApi.Catalogue.Extract

The catalogue of a single chain, read off its document path by path.  Of a path
the `get` operation is taken, or else the `post` operation.  A path with neither
is skipped, and so is an operation whose id an earlier path has taken; both are
reported.  An operation without an id is a failure.

* `Source.operationParameters` — the parameters of an operation, with the shared
  ones in place of the references to them;
* `Source.operationTypes` — the record of one operation;
* `Source.addPath` — one path of the document;
* `PathItem.visited`, `Source.addPath_of_unsupported` and the like — what is to be told apart
  of a path, and what becomes of it in each case;
* `Source.extract` — the catalogue of the document.
-/

namespace ChainApi

/-- Why no catalogue can be extracted from a document. -/
inductive ExtractionError where
  /-- An operation has no id. -/
  | missingOperationId (chain path : String)
  /-- A schema refers to itself. -/
  | cycle (cycle : SchemaCycle)
  deriving DecidableEq, Repr

/-- The wording of the failure. -/
def ExtractionError.message : ExtractionError → String
  | missingOperationId chain path =>
    "Missing operationId for '" ++ path ++ "' on chain '" ++ chain ++ "'"
  | cycle c => c.message

/-- A chain's document, and how its types are to be generated. -/
structure Source where
  chain : String
  document : Document
  options : Options := {}

/-- The operation that a path stands for: `get` if it is declared, else `post`. -/
def PathItem.selected (item : PathItem) : Option (Method × Operation) :=
  match item.get, item.post with
  | some op, _ => some (.get, op)
  | none, some op => some (.post, op)
  | none, none => none

/-- Is there an operation at a path, has it an id, and is the id found already? -/
inductive PathItem.Visited (found : Catalogue) (item : PathItem) : Prop
  | unsupported (unsupported : item.selected = none)
  | unnamed {method : Method} {op : Operation} (selected : item.selected = some (method, op))
      (unnamed : op.operationId = none ∨ op.operationId = some "")
  | repeated {method : Method} {op : Operation} {id : String}
      (selected : item.selected = some (method, op)) (named : op.operationId = some id)
      (nonempty : id ≠ "") (taken : id ∈ found.keys)
  | new {method : Method} {op : Operation} {id : String}
      (selected : item.selected = some (method, op)) (named : op.operationId = some id)
      (nonempty : id ≠ "") (free : id ∉ found.keys)

theorem PathItem.visited (found : Catalogue) (item : PathItem) : item.Visited found := by
  cases selected : item.selected with
  | none => exact .unsupported selected
  | some p =>
    cases named : p.2.operationId with
    | none => exact .unnamed selected (.inl named)
    | some id =>
      by_cases empty : id = ""
      · exact .unnamed selected (.inr (empty ▸ named))
      · by_cases taken : id ∈ found.keys
        · exact .repeated selected named empty taken
        · exact .new selected named empty taken

namespace Source

/-- Put the shared parameters in place of the references to them.  A reference
to a parameter that is not there is left out with a notice. -/
def sharedParameters (source : Source) (path : String) :
    List Parameter → Logged ExtractionError (List Parameter)
  | [] => pure []
  | p :: ps =>
    match source.document.resolveParameter p with
    | some q => do
      let rest ← sharedParameters source path ps
      pure (q :: rest)
    | none => do
      Logged.note (.parameterDangling (Notice.shown p.ref) path source.chain)
      sharedParameters source path ps

/-- The parameters of an operation. -/
def operationParameters (source : Source) (path : String) (op : Operation) :
    Logged ExtractionError (List Parameter) :=
  source.sharedParameters path (op.parameters.getD [])

/-- The type of the response to a status; unknown if none is declared. -/
def responseType (source : Source) (op : Operation) (status : String) :
    Logged ExtractionError String :=
  match op.responses.get? status with
  | none => pure TypeExpr.unknown.text
  | some response => do
    let type ← (Schema.annotate source.document.definitions source.options.resolveRefs
      response.schema).mapError .cycle
    pure type.text

/-- The part of a success type that describes the paging of the result. -/
def pagingSuffix : String := " & PaginationResponse"

/-- The record of one operation. -/
def operationTypes (source : Source) (path : String) (method : Method) (op : Operation) :
    Logged ExtractionError OperationTypes := do
  let params ← source.operationParameters path op
  let types ← (parameterTypes source.document.definitions source.options params).mapError
    .cycle
  let success ← source.responseType op "200"
  let success :=
    if source.options.pagination && isPaginated params then success ++ pagingSuffix else success
  let error ← source.responseType op "default"
  pure {
    method
    comment := op.summary
    endpoint := .singleton source.chain ⟨endpointTemplate path params, path⟩
    path := .singleton source.chain types.path
    query := .singleton source.chain types.query
    body := .singleton source.chain types.body
    success := .singleton source.chain success
    error := .singleton source.chain error }

/-- Add the operation of one path to those found so far. -/
def addPath (source : Source) (found : Catalogue) (path : String) (item : PathItem) :
    Logged ExtractionError Catalogue :=
  match item.selected with
  | none => do
    Logged.note (.pathSkipped path source.chain item.declaredMethods)
    pure found
  | some (method, op) =>
    let id := op.operationId.getD ""
    if id = "" then throw (.missingOperationId source.chain path)
    else if found.contains id then do
      Logged.note (.operationRepeated id source.chain)
      pure found
    else do
      let types ← source.operationTypes path method op
      pure (found.insert id types)

section Equations

variable {source : Source} {found : Catalogue} {path id : String} {item : PathItem}
  {method : Method} {op : Operation}

theorem addPath_of_unsupported (unsupported : item.selected = none) :
    source.addPath found path item = (do
      Logged.note (.pathSkipped path source.chain item.declaredMethods)
      pure found) := by
  rw [addPath, unsupported]

theorem addPath_of_unnamed (selected : item.selected = some (method, op))
    (unnamed : op.operationId = none ∨ op.operationId = some "") :
    source.addPath found path item = throw (.missingOperationId source.chain path) := by
  rcases unnamed with unnamed | unnamed <;> simp [addPath, selected, unnamed]

theorem addPath_of_taken (selected : item.selected = some (method, op))
    (named : op.operationId = some id) (nonempty : id ≠ "") (taken : id ∈ found.keys) :
    source.addPath found path item = (do
      Logged.note (.operationRepeated id source.chain)
      pure found) := by
  simp [addPath, selected, named, nonempty, Table.contains_iff_mem_keys.2 taken]

theorem addPath_of_free (selected : item.selected = some (method, op))
    (named : op.operationId = some id) (nonempty : id ≠ "") (free : id ∉ found.keys) :
    source.addPath found path item = (do
      let types ← source.operationTypes path method op
      pure (found.insert id types)) := by
  simp [addPath, selected, named, nonempty, Table.contains_eq_false_iff.2 free]

end Equations

/-- Add the operations of the given paths to those found so far. -/
def extractPaths (source : Source) (found : Catalogue) :
    List (String × PathItem) → Logged ExtractionError Catalogue
  | [] => pure found
  | (path, item) :: rest => do
    let found ← source.addPath found path item
    extractPaths source found rest

/-- The catalogue of a chain's document. -/
def extract (source : Source) : Logged ExtractionError Catalogue := do
  let catalogue ← source.extractPaths ∅ source.document.paths.entries
  Logged.note (.extracted catalogue.size source.chain)
  pure catalogue

end Source

end ChainApi
