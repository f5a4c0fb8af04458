import ChainApi.Proofs.Inline
import ChainApi.Proofs.Records
import ChainApi.Proofs.SameTypes

/-!
# ChainApi.Proofs.Choices

What the options change.  Where bodies are listed only counts for the query and body
types.  The pagination block is added to the success types of the paginated operations
and to nothing else.  And whatever is extracted when references are followed is also
extracted, under the same ids, when they are not.

Two runs under different options are compared path by path: they fail by the same
paths, and each of their records is that of the same operation.

* `Document.Pages`, `Document.isPaged_iff` — the operations whose results are paged;
* `Source.operationTypes_eq_ok_iff` — what the record of an operation is made of;
* `Source.extract_eq_error_congr` — the failures under options that agree on following
  references;
* `Source.related_of_extract` — catalogues are related if the records of each operation are;
* `Source.extract_options` — what each of the options changes.
-/

namespace ChainApi

/-! ## parts of a record -/

/-- A record without its query and body types. -/
def OperationTypes.withoutBodies (r : OperationTypes) : OperationTypes :=
  { r with query := ∅, body := ∅ }

/-- A record without the types that schemas may count for: those of bodies and responses. -/
def OperationTypes.withoutSchemas (r : OperationTypes) : OperationTypes :=
  { r with query := ∅, body := ∅, success := ∅, error := ∅ }

/-- A record with the pagination block added to its success types. -/
def OperationTypes.paged (r : OperationTypes) : OperationTypes :=
  { r with success := r.success.map (· ++ " & PaginationResponse") }

/-- Has the operation with an id a query parameter by which a result is paged, once the shared
parameters are put in place of the references to them? -/
def Document.Pages (doc : Document) (id : String) : Prop :=
  ∃ path item method op listed p, doc.pathOf? id = some (path, item) ∧
    item.selected = some (method, op) ∧ listed ∈ op.parameters.getD [] ∧
    doc.resolveParameter listed = some p ∧ p.location = some "query" ∧
    ∃ name ∈ ["pagination.key", "pagination.offset", "pagination.limit",
      "pagination.count_total", "pagination.reverse"], p.name = some name

/-- Is the operation with an id paginated? -/
def Document.isPaged (doc : Document) (id : String) : Bool :=
  (doc.pathOf? id).any fun p => p.2.selected.any fun selected =>
    isPaginated ((selected.2.parameters.getD []).filterMap doc.resolveParameter)

theorem Parameter.isPaging_iff {p : Parameter} : p.isPaging = true ↔
    p.location = some "query" ∧ ∃ name ∈ ["pagination.key", "pagination.offset",
      "pagination.limit", "pagination.count_total", "pagination.reverse"],
      p.name = some name := by
  rw [isPaging, Bool.and_eq_true, decide_eq_true_iff]
  refine and_congr_right fun _ => ?_
  cases p.name with
  | none => simp
  | some name => simp [pagingNames]

/-- An operation is paginated exactly if one of its parameters is for paging. -/
theorem Document.isPaged_iff {doc : Document} {id : String} :
    doc.isPaged id = true ↔ doc.Pages id := by
  simp only [isPaged, Pages, isPaginated, Option.any_eq_true, List.any_eq_true,
    List.mem_filterMap, Parameter.isPaging_iff]
  constructor
  · rintro ⟨⟨path, item⟩, hpath, ⟨method, op⟩, hselected, p, ⟨listed, hlisted, hp⟩, hpaging⟩
    exact ⟨path, item, method, op, listed, p, hpath, hselected, hlisted, hp, hpaging⟩
  · rintro ⟨path, item, method, op, listed, p, hpath, hselected, hlisted, hp, hpaging⟩
    exact ⟨(path, item), hpath, (method, op), hselected, p, ⟨listed, hlisted, hp⟩, hpaging⟩

instance (doc : Document) (id : String) : Decidable (doc.Pages id) :=
  decidable_of_iff (doc.isPaged id = true) Document.isPaged_iff

namespace Source

variable {source source' : Source} {chain path id : String} {doc : Document} {options : Options}
  {method : Method} {op : Operation} {item : PathItem} {c c' : Catalogue} {r r' : OperationTypes}
  {e : ExtractionError}

/-- The record of an operation with given types. -/
def record (source : Source) (path : String) (method : Method) (op : Operation)
    (types : ParameterTypes) (success error : String) : OperationTypes where
  method
  comment := op.summary
  endpoint := .singleton source.chain ⟨endpointTemplate path (source.listedParameters op), path⟩
  path := .singleton source.chain types.path
  query := .singleton source.chain types.query
  body := .singleton source.chain types.body
  success := .singleton source.chain <|
    if source.options.pagination && isPaginated (source.listedParameters op) then
      success ++ pagingSuffix
    else success
  error := .singleton source.chain error

/-- The record of an operation is made of the types of its parameters and of its two
responses. -/
theorem operationTypes_eq_ok_iff :
    (source.operationTypes path method op).outcome = .ok r ↔
      ∃ types success error,
        (parameterTypes source.document.definitions source.options
          (source.listedParameters op)).outcome = .ok types ∧
        (source.responseType op "200").outcome = .ok success ∧
        (source.responseType op "default").outcome = .ok error ∧
        r = source.record path method op types success error := by
  rw [operationTypes, operationParameters_eq, Logged.bind_ok]
  simp only [Logged.outcome_bind_eq_ok, Logged.outcome_mapError_eq_ok, Logged.pure_eq,
    Except.ok.injEq]
  constructor
  · rintro ⟨types, htypes, success, hsuccess, error, herror, hr⟩
    exact ⟨types, success, error, htypes, hsuccess, herror, hr.symm⟩
  · rintro ⟨types, success, error, htypes, hsuccess, herror, hr⟩
    exact ⟨types, htypes, success, hsuccess, error, herror, hr.symm⟩

/-! ## two runs -/

/-- Options that agree on following references have the same paths at fault. -/
theorem PathFault.congr {options' : Options} (follows : options.resolveRefs = options'.resolveRefs)
    {before : List (String × PathItem)} {p : String × PathItem}
    (h : PathFault ⟨chain, doc, options⟩ before p e) :
    PathFault ⟨chain, doc, options'⟩ before p e := by
  cases h with
  | unnamed selected unnamed => exact .unnamed selected unnamed
  | cycle selected named nonempty new hfollows first =>
    exact .cycle selected named nonempty new (follows ▸ hfollows) first

/-- Options that agree on following references fail alike. -/
theorem extract_eq_error_congr (options options' : Options)
    (follows : options.resolveRefs = options'.resolveRefs) :
    (extract ⟨chain, doc, options⟩).outcome = .error e ↔
      (extract ⟨chain, doc, options'⟩).outcome = .error e := by
  have hfault : PathFault ⟨chain, doc, options⟩ = PathFault ⟨chain, doc, options'⟩ := by
    funext before p e
    exact propext ⟨.congr follows, .congr follows.symm⟩
  rw [extract_eq_error_iff, extract_eq_error_iff, hfault]

/-- Catalogues of one document have the same ids, and they are related under each of them if
the records that are made of each operation are. -/
theorem related_of_extract (related : String → OperationTypes → OperationTypes → Prop)
    (document : source.document = source'.document) (h : source.extract.outcome = .ok c)
    (h' : source'.extract.outcome = .ok c')
    (records : ∀ id path item method op r r', source.document.pathOf? id = some (path, item) →
      item.selected = some (method, op) →
      (source.operationTypes path method op).outcome = .ok r →
      (source'.operationTypes path method op).outcome = .ok r' → related id r r') :
    c.keys = c'.keys ∧
      ∀ id r r', c.get? id = some r → c'.get? id = some r' → related id r r' := by
  refine ⟨by rw [keys_extract h, keys_extract h', document], fun id r r' hr hr' => ?_⟩
  obtain ⟨path, item, method, op, hpath, hselected, htyped⟩ := typed_of_extract h hr
  obtain ⟨path', item', method', op', hpath', hselected', htyped'⟩ := typed_of_extract h' hr'
  rw [← document, hpath, Option.some.injEq, Prod.mk.injEq] at hpath'
  obtain ⟨rfl, rfl⟩ := hpath'
  rw [hselected, Option.some.injEq, Prod.mk.injEq] at hselected'
  obtain ⟨rfl, rfl⟩ := hselected'
  exact records id path item method op r r' hpath hselected htyped htyped'

/-! ## where bodies are listed -/

end Source

/-- The property that a parameter in the path becomes. -/
def Parameter.pathProperty (p : Parameter) : Option Property :=
  if p.location = some "path" then
    p.name.map fun name => ⟨p.description, displayName name, p.primitiveType⟩
  else none

section PathTypes

variable {defs : Table Schema} {options : Options} {p : Parameter} {ps : List Parameter}

/-- Whatever the options are, a parameter becomes a path property only if it is in the
path. -/
theorem sectionOf_path_property {x : Option (ParameterSection × Property)}
    (h : (p.property defs options).outcome = .ok x) :
    sectionOf .path x.toList = p.pathProperty.toList := by
  rw [Parameter.pathProperty]
  cases p.placed with
  | unnamed hname =>
    rw [Parameter.property_of_unnamed hname] at h
    cases h
    simp [sectionOf, hname]
  | path hname hpath =>
    rw [Parameter.property_of_path hname hpath] at h
    cases h
    simp [sectionOf, hname, hpath]
  | query hname hquery =>
    rw [Parameter.property_of_query hname hquery] at h
    cases h
    simp [sectionOf, hquery]
  | body hname hbody =>
    rw [Parameter.property_of_body hname hbody] at h
    obtain ⟨type, -, h⟩ := Logged.outcome_bind_eq_ok.1 h
    cases h
    cases options.bodyParams <;> simp [sectionOf, BodyPlacement.place, hbody]
  | misplaced hname helsewhere =>
    rw [Parameter.property_of_misplaced hname helsewhere] at h
    cases h
    have hpath : p.location ≠ some "path" := fun hpath => helsewhere (by rw [hpath]; decide)
    simp [sectionOf, hpath]

theorem sectionOf_path_properties {xs : List (ParameterSection × Property)}
    (h : (properties defs options ps).outcome = .ok xs) :
    sectionOf .path xs = ps.filterMap Parameter.pathProperty := by
  induction ps generalizing xs with
  | nil =>
    rw [properties, Logged.pure_eq, Except.ok.injEq] at h
    subst h
    rfl
  | cons p ps ih =>
    rw [properties] at h
    obtain ⟨first, hfirst, h⟩ := Logged.outcome_bind_eq_ok.1 h
    obtain ⟨rest, hrest, h⟩ := Logged.outcome_bind_eq_ok.1 h
    rw [Logged.pure_eq, Except.ok.injEq] at h
    have hsplit : sectionOf .path (first.toList ++ rest) =
        sectionOf .path first.toList ++ sectionOf .path rest := by
      rw [sectionOf, List.filter_append, List.map_append, sectionOf, sectionOf]
    rw [← h, hsplit, sectionOf_path_property hfirst, ih hrest, List.filterMap_cons]
    cases p.pathProperty <;> rfl

/-- The path types do not depend on any option. -/
theorem path_parameterTypes {types : ParameterTypes}
    (h : (parameterTypes defs options ps).outcome = .ok types) :
    types.path = objectType (ps.filterMap Parameter.pathProperty) := by
  rw [parameterTypes] at h
  obtain ⟨xs, hxs, h⟩ := Logged.outcome_bind_eq_ok.1 h
  rw [Logged.pure_eq, Except.ok.injEq] at h
  rw [← h, sectionOf_path_properties hxs]

end PathTypes

namespace Source

variable {chain path id : String} {doc : Document} {options : Options} {method : Method}
  {op : Operation} {item : PathItem} {c c' : Catalogue} {r r' : OperationTypes}

/-- Where bodies are listed counts for the query and body types of a record only. -/
theorem withoutBodies_operationTypes {placement : BodyPlacement}
    (h : (operationTypes ⟨chain, doc, { options with bodyParams := placement }⟩ path method
      op).outcome = .ok r)
    (h' : (operationTypes ⟨chain, doc, options⟩ path method op).outcome = .ok r') :
    r.withoutBodies = r'.withoutBodies := by
  obtain ⟨types, success, error, htypes, hsuccess, herror, rfl⟩ := operationTypes_eq_ok_iff.1 h
  obtain ⟨types', success', error', htypes', hsuccess', herror', rfl⟩ :=
    operationTypes_eq_ok_iff.1 h'
  have hpath : types.path = types'.path :=
    (path_parameterTypes htypes).trans (path_parameterTypes htypes').symm
  have hsame : success = success' := Except.ok.inj (hsuccess.symm.trans hsuccess')
  have hsame' : error = error' := Except.ok.inj (herror.symm.trans herror')
  subst hsame hsame'
  rw [OperationTypes.withoutBodies, OperationTypes.withoutBodies, record, record, hpath]
  rfl

/-- Where bodies are listed does not change the failure, nor anything in the catalogue but the
query and body types. -/
theorem withoutBodies_extract (chain : String) (doc : Document) (options : Options)
    (placement : BodyPlacement) :
    (extract ⟨chain, doc, { options with bodyParams := placement }⟩).outcome.map
        (Table.map OperationTypes.withoutBodies) =
      (extract ⟨chain, doc, options⟩).outcome.map (Table.map OperationTypes.withoutBodies) := by
  have hfails : ∀ e, (extract ⟨chain, doc, { options with bodyParams := placement }⟩).outcome =
      .error e ↔ (extract ⟨chain, doc, options⟩).outcome = .error e := fun e =>
    extract_eq_error_congr { options with bodyParams := placement } options rfl
  cases h : (extract ⟨chain, doc, options⟩).outcome with
  | error e => rw [(hfails e).2 h]
  | ok c =>
    cases h' : (extract ⟨chain, doc, { options with bodyParams := placement }⟩).outcome with
    | error e => rw [(hfails e).1 h'] at h; contradiction
    | ok c' =>
      obtain ⟨hkeys, hrecords⟩ := related_of_extract
        (fun _ r r' => r.withoutBodies = r'.withoutBodies) (by rfl) h' h
        fun _ _ _ _ _ _ _ _ _ htyped htyped' => withoutBodies_operationTypes htyped htyped'
      exact congrArg Except.ok (Table.mapWithKey_eq_mapWithKey hkeys hrecords)

/-! ## paging -/

/-- The record of an operation has the pagination block if the operation is paginated and it
is asked for. -/
theorem paged_operationTypes
    (h : (operationTypes ⟨chain, doc, { options with pagination := false }⟩ path method
      op).outcome = .ok r)
    (h' : (operationTypes ⟨chain, doc, { options with pagination := true }⟩ path method
      op).outcome = .ok r') :
    r' = if isPaginated ((op.parameters.getD []).filterMap doc.resolveParameter) then r.paged
      else r := by
  obtain ⟨types, success, error, htypes, hsuccess, herror, rfl⟩ := operationTypes_eq_ok_iff.1 h
  obtain ⟨types', success', error', htypes', hsuccess', herror', rfl⟩ :=
    operationTypes_eq_ok_iff.1 h'
  have hparameters : ∀ ps,
      parameterTypes doc.definitions { options with pagination := true } ps =
        parameterTypes doc.definitions { options with pagination := false } ps :=
    parameterTypes_congr rfl fun _ => rfl
  have htypes'' := htypes'.symm.trans (congrArg Logged.outcome (hparameters _))
  have hsame : types' = types := Except.ok.inj (htypes''.trans htypes)
  have hsame' : success' = success := Except.ok.inj (hsuccess'.symm.trans hsuccess)
  have hsame'' : error' = error := Except.ok.inj (herror'.symm.trans herror)
  subst hsame hsame' hsame''
  simp only [record, listedParameters, Bool.true_and, Bool.false_and, Bool.false_eq_true, if_false]
  split
  · simp only [OperationTypes.paged]
    rfl
  · rfl

/-- An id stands for the operation that it is found under. -/
theorem isPaged_of_pathOf? (hpath : doc.pathOf? id = some (path, item))
    (hselected : item.selected = some (method, op)) :
    doc.isPaged id = isPaginated ((op.parameters.getD []).filterMap doc.resolveParameter) := by
  simp [Document.isPaged, hpath, hselected]

/-- Asking for pagination does not change the failure; it adds the pagination block to the
success types of the paginated operations and changes nothing else. -/
theorem paged_extract (chain : String) (doc : Document) (options : Options) :
    (extract ⟨chain, doc, { options with pagination := true }⟩).outcome =
      (extract ⟨chain, doc, { options with pagination := false }⟩).outcome.map
        (Table.mapWithKey fun id r => if doc.Pages id then r.paged else r) := by
  have hfails : ∀ e, (extract ⟨chain, doc, { options with pagination := true }⟩).outcome =
      .error e ↔ (extract ⟨chain, doc, { options with pagination := false }⟩).outcome =
        .error e := fun e =>
    extract_eq_error_congr { options with pagination := true } { options with pagination := false }
      rfl
  cases h : (extract ⟨chain, doc, { options with pagination := false }⟩).outcome with
  | error e => exact (hfails e).2 h
  | ok c =>
    cases h' : (extract ⟨chain, doc, { options with pagination := true }⟩).outcome with
    | error e => rw [(hfails e).1 h'] at h; contradiction
    | ok c' =>
      obtain ⟨hkeys, hrecords⟩ := related_of_extract
        (fun id r r' => (if doc.Pages id then r.paged else r) = r') (by rfl) h h'
        fun id path item method op r r' hpath hselected htyped htyped' => by
          rw [paged_operationTypes htyped htyped', ← isPaged_of_pathOf? hpath hselected]
          exact if_congr Document.isPaged_iff.symm rfl rfl
      have hmap := Table.mapWithKey_eq_mapWithKey hkeys hrecords
      rw [Table.mapWithKey_self] at hmap
      exact congrArg Except.ok hmap.symm

/-! ## following references -/

/-- What a schema is made into counts for the types of bodies and responses only. -/
theorem withoutSchemas_operationTypes {options' : Options}
    (h : (operationTypes ⟨chain, doc, options⟩ path method op).outcome = .ok r)
    (h' : (operationTypes ⟨chain, doc, options'⟩ path method op).outcome = .ok r') :
    r.withoutSchemas = r'.withoutSchemas := by
  obtain ⟨types, success, error, htypes, -, -, rfl⟩ := operationTypes_eq_ok_iff.1 h
  obtain ⟨types', success', error', htypes', -, -, rfl⟩ := operationTypes_eq_ok_iff.1 h'
  have hpath : types.path = types'.path :=
    (path_parameterTypes htypes).trans (path_parameterTypes htypes').symm
  rw [OperationTypes.withoutSchemas, OperationTypes.withoutSchemas, record, record, hpath]
  rfl

/-- Without following references the only failure is an operation without an id. -/
theorem extract_ne_cycle (cycle : SchemaCycle) :
    (extract ⟨chain, doc, { options with resolveRefs := false }⟩).outcome ≠
      .error (.cycle cycle) := by
  intro h
  obtain ⟨_, _, _, hfault⟩ := (extract_eq_error_iff.1 h).exists_fault
  cases hfault with
  | cycle _ _ _ _ follows _ => exact Bool.false_ne_true follows

/-- What is extracted when references are followed is extracted when they are not. -/
theorem exists_extract_of_follow
    (h : (extract ⟨chain, doc, { options with resolveRefs := true }⟩).outcome = .ok c) :
    ∃ c', (extract ⟨chain, doc, { options with resolveRefs := false }⟩).outcome = .ok c' := by
  cases hoff : (extract ⟨chain, doc, { options with resolveRefs := false }⟩).outcome with
  | ok c' => exact ⟨c', rfl⟩
  | error e =>
    -- a path without an id is at fault in both modes
    obtain ⟨i, p, hp, hfault, -⟩ := extract_eq_error_iff.1 hoff
    cases hfault with
    | cycle _ _ _ _ follows _ => exact absurd follows Bool.false_ne_true
    | @unnamed path item _ _ selected unnamed =>
      have hfault : PathFault ⟨chain, doc, { options with resolveRefs := true }⟩
          (doc.paths.entries.take i) (path, item) (.missingOperationId chain path) :=
        .unnamed selected unnamed
      obtain ⟨e', hfirst⟩ := exists_firstFault hp hfault
      rw [extract_eq_error_iff.2 hfirst] at h
      contradiction

/-- **What the options change.**  Where bodies are listed does not change the failure, nor
anything in the catalogue but the query and body types.  Asking for pagination does not change
the failure either; it adds the pagination block to the success types of the operations that
have a query parameter for paging, and changes nothing else.  What is extracted when references are followed is also
extracted when they are not, with the same ids in the same order and the same methods,
comments, endpoints and path types; and there is no failure for a cycle then. -/
theorem extract_options (chain : String) (doc : Document) (options : Options) :
    (∀ placement : BodyPlacement,
      (extract ⟨chain, doc, { options with bodyParams := placement }⟩).outcome.map
          (Table.map OperationTypes.withoutBodies) =
        (extract ⟨chain, doc, options⟩).outcome.map (Table.map OperationTypes.withoutBodies)) ∧
    (extract ⟨chain, doc, { options with pagination := true }⟩).outcome =
      (extract ⟨chain, doc, { options with pagination := false }⟩).outcome.map
        (Table.mapWithKey fun id r => if doc.Pages id then r.paged else r) ∧
    (∀ c, (extract ⟨chain, doc, { options with resolveRefs := true }⟩).outcome = .ok c →
      ∃ c', (extract ⟨chain, doc, { options with resolveRefs := false }⟩).outcome = .ok c' ∧
        c'.map OperationTypes.withoutSchemas = c.map OperationTypes.withoutSchemas) ∧
    ∀ cycle, (extract ⟨chain, doc, { options with resolveRefs := false }⟩).outcome ≠
      .error (.cycle cycle) := by
  refine ⟨withoutBodies_extract chain doc options, paged_extract chain doc options,
    fun c h => ?_, extract_ne_cycle⟩
  obtain ⟨c', h'⟩ := exists_extract_of_follow h
  obtain ⟨hkeys, hrecords⟩ := related_of_extract
    (fun _ r r' => r.withoutSchemas = r'.withoutSchemas) (by rfl) h' h
    fun _ _ _ _ _ _ _ _ _ htyped htyped' => withoutSchemas_operationTypes htyped htyped'
  exact ⟨c', h', Table.mapWithKey_eq_mapWithKey hkeys hrecords⟩

/-- A document with two operations, of which the first one has a shared parameter for paging. -/
def supplies : Document where
  paths := .ofList [
    ("/supply", { get := some {
      operationId := some "Supplies", parameters := some [{ ref := some "#/parameters/Limit" }] } }),
    ("/supply/\x7bdenom\x7d", { get := some { operationId := some "Supply" } })]
  parameters := .singleton "Limit" { name := some "pagination.limit", location := some "query" }

theorem extract_options_balances :
    (∃ c c', (extract ⟨"kyve", Document.balances, { resolveRefs := true }⟩).outcome = .ok c ∧
      (extract ⟨"kyve", Document.balances, {}⟩).outcome = .ok c' ∧ c.keys = ["Balances"] ∧
      c'.map OperationTypes.withoutSchemas = c.map OperationTypes.withoutSchemas) ∧
    ∃ c c', (extract ⟨"kyve", supplies, {}⟩).outcome = .ok c ∧
      c.values.map (·.success.entries) = [[("kyve", "unknown")], [("kyve", "unknown")]] ∧
      (extract ⟨"kyve", supplies, { pagination := true }⟩).outcome = .ok c' ∧
      c'.values.map (·.success.entries) =
        [[("kyve", "unknown & PaginationResponse")], [("kyve", "unknown")]] := by
  let source : Source := ⟨"kyve", Document.balances, { resolveRefs := true }⟩
  let op : Operation :=
    { operationId := some "Balances"
      responses := .singleton "200" { schema := some (Document.refTo "Balance") } }
  have hannotate : Schema.annotate Document.balances.definitions true
      (some (Document.refTo "Balance")) = ⟨[], .ok ⟨.array .string, some "of an account"⟩⟩ :=
    Document.express_balances
  have hsuccess : (source.responseType op "200").outcome =
      .ok (Annotated.text ⟨.array .string, some "of an account"⟩) := by
    have hget : op.responses.get? "200" = some { schema := some (Document.refTo "Balance") } := rfl
    rw [responseType, hget]
    show ((Schema.annotate Document.balances.definitions true
      (some (Document.refTo "Balance"))).mapError ExtractionError.cycle >>= _).outcome = _
    rw [hannotate]
    rfl
  have htyped : (source.operationTypes "/balances" .get op).outcome = .ok _ :=
    operationTypes_eq_ok_iff.2 ⟨_, _, _, rfl, hsuccess, rfl, rfl⟩
  have hpath : source.AddsPath ∅ "/balances" { get := some op } _ :=
    .added rfl rfl (by decide) (by simp) htyped
  have h : source.extract.outcome = .ok _ := extract_eq_ok_iff.2 (.cons hpath .nil)
  obtain ⟨-, -, hfollow, -⟩ := extract_options "kyve" Document.balances {}
  obtain ⟨c', h', hsame⟩ := hfollow _ h
  obtain ⟨-, hpaged, -, -⟩ := extract_options "kyve" supplies {}
  exact ⟨⟨_, c', h, h', rfl, hsame⟩, _, _, rfl, rfl, hpaged, rfl⟩

end Source

end ChainApi
