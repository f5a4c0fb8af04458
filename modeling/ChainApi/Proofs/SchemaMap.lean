import ChainApi.Proofs.Extraction

/-!
# ChainApi.Proofs.SchemaMap

Documents whose schemas are changed.  The catalogue of a document depends on the
schemas of its responses and bodies through their types only: if each of these has
the same type after the change, with whatever definitions there are then, the
catalogue is the same, and so are the notices and the failure.

* `Document.mapSchemas` — a document with its response and body schemas changed;
* `Document.Uses` — the response and body schemas of a document;
* `Source.operationTypes_withSchemas` — the same types make the same record;
* `Source.extract_withSchemas` — and the same catalogue.
-/

namespace ChainApi

variable {change : Schema → Schema}

/-! ## changing schemas -/

/-- A parameter with the schema of its body changed. -/
def Parameter.mapBody (change : Schema → Schema) (p : Parameter) : Parameter :=
  if p.location = some "body" then { p with schema := p.schema.map change } else p

/-- A response with its schema changed. -/
def Response.mapSchema (change : Schema → Schema) (r : Response) : Response :=
  { r with schema := r.schema.map change }

/-- An operation with its response and body schemas changed. -/
def Operation.mapSchemas (change : Schema → Schema) (op : Operation) : Operation :=
  { op with
    parameters := op.parameters.map (List.map (Parameter.mapBody change))
    responses := op.responses.map (Response.mapSchema change) }

/-- A path with the schemas of its operations changed. -/
def PathItem.mapSchemas (change : Schema → Schema) (item : PathItem) : PathItem :=
  { item with
    get := item.get.map (Operation.mapSchemas change)
    post := item.post.map (Operation.mapSchemas change) }

/-- A document with its response and body schemas changed, those of the shared parameters
too. -/
def Document.mapSchemas (change : Schema → Schema) (doc : Document) : Document :=
  { doc with
    paths := doc.paths.map (PathItem.mapSchemas change)
    parameters := doc.parameters.map (Parameter.mapBody change) }

/-- A source whose document has its schemas changed and other definitions, and where
references are followed or not. -/
def Source.withSchemas (source : Source) (change : Schema → Schema) (defs : Table Schema)
    (inline : Bool) : Source :=
  { source with
    document := { source.document.mapSchemas change with definitions := defs }
    options := { source.options with resolveRefs := inline } }

/-! ## the schemas in use -/

/-- The schema of the body that a parameter describes. -/
def Parameter.Describes (p : Parameter) (s : Schema) : Prop :=
  p.location = some "body" ∧ p.schema = some s

/-- The response and body schemas of an operation. -/
inductive Operation.Uses (op : Operation) : Schema → Prop
  | response {status : String} {r : Response} {s : Schema}
      (listed : op.responses.get? status = some r) (schema : r.schema = some s) : Uses op s
  | body {ps : List Parameter} {p : Parameter} {s : Schema} (parameters : op.parameters = some ps)
      (listed : p ∈ ps) (describes : p.Describes s) : Uses op s

/-- A document declares an operation under one of its paths. -/
def Document.Declares (doc : Document) (op : Operation) : Prop :=
  ∃ path item, (path, item) ∈ doc.paths.entries ∧ (item.get = some op ∨ item.post = some op)

/-- The response and body schemas of a document. -/
inductive Document.Uses (doc : Document) : Schema → Prop
  | operation {op : Operation} {s : Schema} (declares : doc.Declares op) (uses : op.Uses s) :
      Uses doc s
  | shared {name : String} {p : Parameter} {s : Schema}
      (listed : doc.parameters.get? name = some p) (describes : p.Describes s) : Uses doc s

namespace Parameter

variable {p : Parameter}

@[simp] theorem name_mapBody : (p.mapBody change).name = p.name := by
  rw [mapBody]; split <;> rfl

@[simp] theorem location_mapBody : (p.mapBody change).location = p.location := by
  rw [mapBody]; split <;> rfl

@[simp] theorem description_mapBody : (p.mapBody change).description = p.description := by
  rw [mapBody]; split <;> rfl

@[simp] theorem format_mapBody : (p.mapBody change).format = p.format := by
  rw [mapBody]; split <;> rfl

@[simp] theorem ref_mapBody : (p.mapBody change).ref = p.ref := by
  rw [mapBody]; split <;> rfl

theorem schema_mapBody (h : p.location = some "body") :
    (p.mapBody change).schema = p.schema.map change := by
  rw [mapBody, if_pos h]

@[simp] theorem primitiveType_mapBody : (p.mapBody change).primitiveType = p.primitiveType := by
  simp [primitiveType]

@[simp] theorem isPaging_mapBody : (p.mapBody change).isPaging = p.isPaging := by
  simp [isPaging]

@[simp] theorem substitute_mapBody (path : List Char) :
    Parameter.substitute path (p.mapBody change) = p.substitute path := by
  simp [substitute]

end Parameter

theorem isPaginated_mapBody (ps : List Parameter) :
    isPaginated (ps.map (Parameter.mapBody change)) = isPaginated ps := by
  simp [isPaginated, Function.comp_def]

theorem endpointTemplate_mapBody (path : String) (ps : List Parameter) :
    endpointTemplate path (ps.map (Parameter.mapBody change)) = endpointTemplate path ps := by
  simp [endpointTemplate, List.foldl_map]

/-! ## the same types -/

namespace Source

variable {source : Source} {defs : Table Schema} {inline : Bool} {path : String}
  {op : Operation} {s : Schema}

/-- A schema has the same type after the change, with the definitions there are then. -/
def KeepsType (source : Source) (change : Schema → Schema) (defs : Table Schema) (inline : Bool)
    (s : Schema) : Prop :=
  (change s).express defs inline [] =
    s.express source.document.definitions source.options.resolveRefs []

theorem annotate_map {node : Option Schema}
    (h : ∀ s, node = some s → source.KeepsType change defs inline s) :
    Schema.annotate defs inline (node.map change) =
      Schema.annotate source.document.definitions source.options.resolveRefs node := by
  cases node with
  | none => rfl
  | some s => exact h s rfl

/-- A parameter becomes the same property. -/
theorem property_mapBody {p : Parameter}
    (h : ∀ s, p.Describes s → source.KeepsType change defs inline s) :
    (p.mapBody change).property defs { source.options with resolveRefs := inline } =
      p.property source.document.definitions source.options := by
  rw [Parameter.property, Parameter.property, Parameter.name_mapBody,
    Parameter.location_mapBody, Parameter.description_mapBody, Parameter.primitiveType_mapBody]
  by_cases hbody : p.location = some "body"
  · have htype := annotate_map fun s hschema => h s ⟨hbody, hschema⟩
    rw [Parameter.schema_mapBody hbody]
    simp only
    rw [htype]
  · simp only [if_neg hbody]

theorem properties_mapBody {ps : List Parameter}
    (h : ∀ p ∈ ps, ∀ s, p.Describes s → source.KeepsType change defs inline s) :
    properties defs { source.options with resolveRefs := inline }
        (ps.map (Parameter.mapBody change)) =
      properties source.document.definitions source.options ps := by
  induction ps with
  | nil => rfl
  | cons p ps ih =>
    rw [List.map_cons, properties, properties, property_mapBody (h p List.mem_cons_self),
      ih fun q hmem => h q (List.mem_cons_of_mem _ hmem)]

/-! ## the same parameters -/

/-- A reference to a shared parameter leads to the shared one, changed. -/
theorem resolveParameter_mapBody (p : Parameter) :
    (source.withSchemas change defs inline).document.resolveParameter (p.mapBody change) =
      (source.document.resolveParameter p).map (Parameter.mapBody change) := by
  rw [Document.resolveParameter, Document.resolveParameter, Parameter.ref_mapBody]
  cases p.ref with
  | none => rfl
  | some pointer => exact Table.get?_mapWithKey _ _ _

theorem danglingNotice_mapBody (p : Parameter) :
    (source.withSchemas change defs inline).danglingNotice path (p.mapBody change) =
      source.danglingNotice path p := by
  rw [danglingNotice, danglingNotice, resolveParameter_mapBody, Parameter.ref_mapBody]
  cases source.document.resolveParameter p <;> rfl

theorem parameters_mapSchemas :
    (op.mapSchemas change).parameters.getD [] =
      (op.parameters.getD []).map (Parameter.mapBody change) := by
  rw [Operation.mapSchemas]
  cases op.parameters <;> rfl

theorem listedParameters_withSchemas :
    (source.withSchemas change defs inline).listedParameters (op.mapSchemas change) =
      (source.listedParameters op).map (Parameter.mapBody change) := by
  have hresolve : (source.withSchemas change defs inline).document.resolveParameter ∘
      Parameter.mapBody change =
        fun p => (source.document.resolveParameter p).map (Parameter.mapBody change) :=
    funext resolveParameter_mapBody
  rw [listedParameters, parameters_mapSchemas, listedParameters, List.filterMap_map,
    List.map_filterMap, hresolve]

/-- The same parameters are left out, with the same notices. -/
theorem operationParameters_withSchemas :
    (source.withSchemas change defs inline).operationParameters path (op.mapSchemas change) =
      ⟨(op.parameters.getD []).filterMap (source.danglingNotice path),
        .ok ((source.listedParameters op).map (Parameter.mapBody change))⟩ := by
  rw [operationParameters_eq, listedParameters_withSchemas, parameters_mapSchemas,
    List.filterMap_map]
  have hnotices : (source.withSchemas change defs inline).danglingNotice path ∘
      Parameter.mapBody change = source.danglingNotice path :=
    funext danglingNotice_mapBody
  rw [hnotices]

/-- A body that a parameter of an operation describes is one of the document's. -/
theorem uses_of_mem_listedParameters {p : Parameter} (declares : source.document.Declares op)
    (h : p ∈ source.listedParameters op) (describes : p.Describes s) :
    source.document.Uses s := by
  obtain ⟨q, hmem, hresolve⟩ := List.mem_filterMap.1 h
  rw [Document.resolveParameter] at hresolve
  split at hresolve
  · rw [Option.some.injEq] at hresolve
    subst hresolve
    cases hparams : op.parameters with
    | none => rw [hparams] at hmem; exact (List.not_mem_nil hmem).elim
    | some ps =>
      rw [hparams] at hmem
      exact .operation declares (.body hparams hmem describes)
  · exact .shared hresolve describes

/-! ## the same catalogue -/

theorem responseType_withSchemas {status : String} (declares : source.document.Declares op)
    (h : ∀ s, source.document.Uses s → source.KeepsType change defs inline s) :
    (source.withSchemas change defs inline).responseType (op.mapSchemas change) status =
      source.responseType op status := by
  have hget : (op.mapSchemas change).responses.get? status =
      (op.responses.get? status).map (Response.mapSchema change) := Table.get?_mapWithKey _ _ _
  rw [responseType, responseType, hget]
  cases hresponse : op.responses.get? status with
  | none => rfl
  | some r =>
    have htype := annotate_map fun s hschema =>
      h s (.operation declares (.response hresponse hschema))
    simp only [Option.map_some, Response.mapSchema]
    rw [← htype]
    rfl

/-- The record of an operation is the same if its response and body schemas have the same
types. -/
theorem operationTypes_withSchemas {method : Method} (declares : source.document.Declares op)
    (h : ∀ s, source.document.Uses s → source.KeepsType change defs inline s) :
    (source.withSchemas change defs inline).operationTypes path method (op.mapSchemas change) =
      source.operationTypes path method op := by
  have htypes : parameterTypes (source.withSchemas change defs inline).document.definitions
      (source.withSchemas change defs inline).options
      ((source.listedParameters op).map (Parameter.mapBody change)) =
      parameterTypes source.document.definitions source.options (source.listedParameters op) := by
    have hproperties := properties_mapBody fun p hmem s describes =>
      h s (uses_of_mem_listedParameters declares hmem describes)
    rw [parameterTypes, parameterTypes, ← hproperties]
    rfl
  rw [operationTypes, operationTypes, operationParameters_withSchemas, operationParameters_eq,
    Logged.bind_ok, Logged.bind_ok, htypes, responseType_withSchemas declares h,
    responseType_withSchemas declares h, isPaginated_mapBody, endpointTemplate_mapBody]
  rfl

theorem selected_mapSchemas (item : PathItem) :
    (item.mapSchemas change).selected = item.selected.map fun p => (p.1, p.2.mapSchemas change) :=
  PathItem.selected_mapOperations item

theorem declaredMethods_mapSchemas (item : PathItem) :
    (item.mapSchemas change).declaredMethods = item.declaredMethods :=
  PathItem.declaredMethods_mapOperations item

theorem declares_of_selected {item : PathItem} {method : Method}
    (listed : (path, item) ∈ source.document.paths.entries)
    (h : item.selected = some (method, op)) : source.document.Declares op := by
  refine ⟨path, item, listed, ?_⟩
  rw [PathItem.selected] at h
  split at h
  · next hget => cases h; exact .inl hget
  · next hpost => cases h; exact .inr hpost
  · contradiction

/-- One path adds the same. -/
theorem addPath_withSchemas {found : Catalogue} {item : PathItem}
    (listed : (path, item) ∈ source.document.paths.entries)
    (h : ∀ s, source.document.Uses s → source.KeepsType change defs inline s) :
    (source.withSchemas change defs inline).addPath found path (item.mapSchemas change) =
      source.addPath found path item := by
  rw [addPath, addPath, selected_mapSchemas, declaredMethods_mapSchemas]
  cases hselected : item.selected with
  | none => rfl
  | some selected =>
    obtain ⟨method, op⟩ := selected
    have hrecord : (source.withSchemas change defs inline).operationTypes path method
        (op.mapSchemas change) = source.operationTypes path method op :=
      operationTypes_withSchemas (declares_of_selected listed hselected) h
    simp only [Option.map_some]
    rw [hrecord]
    rfl

theorem extractPaths_withSchemas {found : Catalogue} {paths : List (String × PathItem)}
    (listed : ∀ p ∈ paths, p ∈ source.document.paths.entries)
    (h : ∀ s, source.document.Uses s → source.KeepsType change defs inline s) :
    (source.withSchemas change defs inline).extractPaths found
        (paths.map fun p => (p.1, p.2.mapSchemas change)) =
      source.extractPaths found paths := by
  induction paths generalizing found with
  | nil => rfl
  | cons p paths ih =>
    obtain ⟨path, item⟩ := p
    rw [List.map_cons, extractPaths, extractPaths,
      addPath_withSchemas (listed _ List.mem_cons_self) h]
    refine bind_congr fun found' => ?_
    exact ih fun p hmem => listed p (List.mem_cons_of_mem _ hmem)

/-- The catalogue of a document is the same if the response and body schemas have the same
types, and so are the notices and the failure. -/
theorem extract_withSchemas
    (h : ∀ s, source.document.Uses s → source.KeepsType change defs inline s) :
    (source.withSchemas change defs inline).extract = source.extract := by
  have hpaths : (source.withSchemas change defs inline).extractPaths ∅
      (source.withSchemas change defs inline).document.paths.entries =
        source.extractPaths ∅ source.document.paths.entries :=
    extractPaths_withSchemas (fun _ hmem => hmem) h
  rw [extract, extract, hpaths]
  rfl

end Source

end ChainApi
