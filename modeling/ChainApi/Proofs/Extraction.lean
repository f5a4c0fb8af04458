import ChainApi.Catalogue.Extract

/-!
# ChainApi.Proofs.Extraction

What the catalogue of a single chain holds.  One path adds at most one record, and
a record is never changed afterwards, so that each record found in the end is that
of the operation of some path.

* `Source.operationParameters_eq` — the parameters of an operation;
* `Source.addPath_eq_ok_iff`, `Source.extractPaths_eq_ok_iff` — what one path can come to, and
  what they can come to one after the other;
* `Source.get?_extract` — where a record of the catalogue comes from;
* `Source.covers_extract` — each record has one entry in each column, that of its chain.
-/

namespace ChainApi

/-- A record has entries for exactly these chains, in this order, in each of its columns. -/
structure OperationTypes.Covers (r : OperationTypes) (chains : List String) : Prop where
  endpoint : r.endpoint.keys = chains
  path : r.path.keys = chains
  query : r.query.keys = chains
  body : r.body.keys = chains
  success : r.success.keys = chains
  error : r.error.keys = chains

/-! ## paths with other operations -/

namespace PathItem

/-- A path with its operations changed. -/
def mapOperations (change : Operation → Operation) (item : PathItem) : PathItem :=
  { item with get := item.get.map change, post := item.post.map change }

variable {change : Operation → Operation}

/-- The operation that a path stands for is changed, and its method stays. -/
theorem selected_mapOperations (item : PathItem) :
    (item.mapOperations change).selected = item.selected.map fun p => (p.1, change p.2) := by
  obtain ⟨get, post, extra⟩ := item
  cases get <;> cases post <;> rfl

theorem declaredMethods_mapOperations (item : PathItem) :
    (item.mapOperations change).declaredMethods = item.declaredMethods := by
  obtain ⟨get, post, extra⟩ := item
  cases get <;> cases post <;> rfl

end PathItem

namespace Source

variable {source : Source} {found c : Catalogue} {path id : String} {item : PathItem}
  {r : OperationTypes}

/-! ## one operation -/

/-- The notice about a reference to a shared parameter that is not there. -/
def danglingNotice (source : Source) (path : String) (p : Parameter) : Option Notice :=
  match source.document.resolveParameter p with
  | some _ => none
  | none => some (.parameterDangling (Notice.shown p.ref) path source.chain)

/-- The references that lead somewhere are replaced, and the others left out with a
notice; this is never a failure. -/
theorem sharedParameters_eq (source : Source) (path : String) (ps : List Parameter) :
    source.sharedParameters path ps = ⟨ps.filterMap (source.danglingNotice path),
      .ok (ps.filterMap source.document.resolveParameter)⟩ := by
  induction ps with
  | nil => rfl
  | cons p ps ih =>
    rw [sharedParameters, List.filterMap_cons, List.filterMap_cons, danglingNotice]
    split
    · next hsome => rw [ih]; simp [hsome]
    · next hnone => rw [ih]; simp [Logged.note, hnone]

/-- The parameters of an operation, without the references that lead nowhere. -/
def listedParameters (source : Source) (op : Operation) : List Parameter :=
  (op.parameters.getD []).filterMap source.document.resolveParameter

theorem operationParameters_eq (source : Source) (path : String) (op : Operation) :
    source.operationParameters path op =
      ⟨(op.parameters.getD []).filterMap (source.danglingNotice path),
        .ok (source.listedParameters op)⟩ :=
  sharedParameters_eq source path _

/-- The record of an operation has entries for the chain of its document only. -/
theorem covers_operationTypes {method : Method} {op : Operation}
    (h : (source.operationTypes path method op).outcome = .ok r) : r.Covers [source.chain] := by
  rw [operationTypes] at h
  obtain ⟨params, -, h⟩ := Logged.outcome_bind_eq_ok.1 h
  obtain ⟨types, -, h⟩ := Logged.outcome_bind_eq_ok.1 h
  obtain ⟨success, -, h⟩ := Logged.outcome_bind_eq_ok.1 h
  obtain ⟨error, -, h⟩ := Logged.outcome_bind_eq_ok.1 h
  rw [Logged.pure_eq, Except.ok.injEq] at h
  subst h
  constructor <;> rfl

/-! ## one path -/

/-- What a path can add to the operations found so far, if it is no failure. -/
inductive AddsPath (source : Source) (found : Catalogue) (path : String) (item : PathItem) :
    Catalogue → Prop
  | skipped (unsupported : item.selected = none) : AddsPath source found path item found
  | repeated {method : Method} {op : Operation} {id : String}
      (selected : item.selected = some (method, op)) (named : op.operationId = some id)
      (nonempty : id ≠ "") (taken : id ∈ found.keys) : AddsPath source found path item found
  | added {method : Method} {op : Operation} {id : String} {r : OperationTypes}
      (selected : item.selected = some (method, op)) (named : op.operationId = some id)
      (nonempty : id ≠ "") (free : id ∉ found.keys)
      (typed : (source.operationTypes path method op).outcome = .ok r) :
      AddsPath source found path item (found.insert id r)

/-- One path is skipped, repeats an operation, or adds the record of a new one. -/
theorem addPath_eq_ok_iff :
    (source.addPath found path item).outcome = .ok c ↔ AddsPath source found path item c := by
  constructor
  · intro h
    cases item.visited found with
    | unsupported unsupported =>
      rw [addPath_of_unsupported unsupported] at h
      cases h
      exact .skipped unsupported
    | unnamed selected unnamed =>
      rw [addPath_of_unnamed selected unnamed] at h
      contradiction
    | repeated selected named nonempty taken =>
      rw [addPath_of_taken selected named nonempty taken] at h
      cases h
      exact .repeated selected named nonempty taken
    | new selected named nonempty free =>
      rw [addPath_of_free selected named nonempty free] at h
      obtain ⟨r, typed, h⟩ := Logged.outcome_bind_eq_ok.1 h
      cases h
      exact .added selected named nonempty free typed
  · intro h
    cases h with
    | skipped unsupported =>
      rw [addPath_of_unsupported unsupported]
      rfl
    | repeated selected named nonempty taken =>
      rw [addPath_of_taken selected named nonempty taken]
      rfl
    | added selected named nonempty free typed =>
      rw [addPath_of_free selected named nonempty free]
      exact Logged.outcome_bind_eq_ok.2 ⟨_, typed, rfl⟩

/-! ## all paths -/

/-- What paths can add one after the other, if none of them is a failure. -/
inductive AddsPaths (source : Source) : Catalogue → List (String × PathItem) → Catalogue → Prop
  | nil {found : Catalogue} : AddsPaths source found [] found
  | cons {found next c : Catalogue} {path : String} {item : PathItem}
      {paths : List (String × PathItem)} (adds : source.AddsPath found path item next)
      (rest : AddsPaths source next paths c) : AddsPaths source found ((path, item) :: paths) c

theorem extractPaths_eq_ok_iff {paths : List (String × PathItem)} :
    (source.extractPaths found paths).outcome = .ok c ↔ source.AddsPaths found paths c := by
  induction paths generalizing found with
  | nil =>
    rw [extractPaths, Logged.pure_eq, Except.ok.injEq]
    constructor
    · rintro rfl
      exact .nil
    · rintro ⟨⟩
      rfl
  | cons p paths ih =>
    obtain ⟨path, item⟩ := p
    simp only [extractPaths, Logged.outcome_bind_eq_ok, addPath_eq_ok_iff, ih]
    constructor
    · rintro ⟨next, adds, rest⟩
      exact .cons adds rest
    · rintro (_ | ⟨adds, rest⟩)
      exact ⟨_, adds, rest⟩

/-- A record was there before, or it is that of the operation of one of the paths. -/
theorem AddsPaths.get? {paths : List (String × PathItem)} (h : source.AddsPaths found paths c)
    (hr : c.get? id = some r) :
    found.get? id = some r ∨
      ∃ path item method op, (path, item) ∈ paths ∧ item.selected = some (method, op) ∧
        op.operationId = some id ∧ (source.operationTypes path method op).outcome = .ok r := by
  induction h with
  | nil => exact .inl hr
  | cons adds _ ih =>
    rcases ih hr with hfound | ⟨path', item', method', op', hmem, hrest⟩
    · cases adds with
      | skipped => exact .inl hfound
      | repeated => exact .inl hfound
      | added selected named _ _ typed =>
        rw [Table.get?_insert] at hfound
        split at hfound
        · next hid =>
          subst hid
          cases hfound
          exact .inr ⟨_, _, _, _, List.mem_cons_self, selected, named, typed⟩
        · exact .inl hfound
    · exact .inr ⟨path', item', method', op', List.mem_cons_of_mem _ hmem, hrest⟩

theorem extract_eq_ok_iff :
    source.extract.outcome = .ok c ↔
      source.AddsPaths ∅ source.document.paths.entries c := by
  rw [extract, Logged.outcome_bind_eq_ok, ← extractPaths_eq_ok_iff]
  simp [Logged.note]

/-- Each record of the catalogue of a document is that of the operation of some path. -/
theorem get?_extract (h : source.extract.outcome = .ok c) (hr : c.get? id = some r) :
    ∃ path item method op, (path, item) ∈ source.document.paths.entries ∧
      item.selected = some (method, op) ∧ op.operationId = some id ∧
      (source.operationTypes path method op).outcome = .ok r := by
  rcases (extract_eq_ok_iff.1 h).get? hr with hnone | hsome
  · rw [Table.get?_empty] at hnone; contradiction
  · exact hsome

/-- Each record of the catalogue of a document covers the chain of the document and no
other. -/
theorem covers_extract (h : source.extract.outcome = .ok c) (hr : c.get? id = some r) :
    r.Covers [source.chain] := by
  obtain ⟨_, _, _, _, _, _, _, typed⟩ := get?_extract h hr
  exact covers_operationTypes typed

end Source

end ChainApi
