import ChainApi.Proofs.Failures

/-!
# ChainApi.Proofs.SameTypes

What an extraction depends on.  Of the definitions of a document it sees no more than
the types that they give to nodes, and of the rest of a document no more than its paths
and its shared parameters.

* `properties_congr`, `parameterTypes_congr` — the types of parameters depend on the types of
  the bodies, and on where bodies are listed;
* `Source.SameTypes` — sources between which an extraction cannot tell;
* `Source.SameTypes.extract` — these have the same catalogue.
-/

namespace ChainApi

section Parameters

variable {defs defs' : Table Schema} {options options' : Options} {p : Parameter}
  {ps : List Parameter}

/-- The property of a parameter depends on the type of the body that it describes, and on
where bodies are listed. -/
theorem property_congr (placement : options.bodyParams = options'.bodyParams)
    (body : ∀ s ∈ p.namedBody,
      s.express defs options.resolveRefs [] = s.express defs' options'.resolveRefs []) :
    p.property defs options = p.property defs' options' := by
  rw [Parameter.property, Parameter.property, placement]
  cases hname : p.name with
  | none => rfl
  | some name =>
    by_cases hbody : p.location = some "body"
    · have hschema : p.namedBody = p.schema := by
        rw [Parameter.namedBody, hname, hbody]
        exact if_pos ⟨rfl, rfl⟩
      have hannotate : Schema.annotate defs options.resolveRefs p.schema =
          Schema.annotate defs' options'.resolveRefs p.schema := by
        cases hs : p.schema with
        | none => rfl
        | some s => exact body s (hschema.trans hs)
      simp only [hannotate]
    · simp only [if_neg hbody]

theorem properties_congr (placement : options.bodyParams = options'.bodyParams)
    (bodies : ∀ s ∈ ps.filterMap Parameter.namedBody,
      s.express defs options.resolveRefs [] = s.express defs' options'.resolveRefs []) :
    properties defs options ps = properties defs' options' ps := by
  induction ps with
  | nil => rfl
  | cons p ps ih =>
    have hfirst : p.property defs options = p.property defs' options' :=
      property_congr placement fun s hs =>
        bodies s (List.mem_filterMap.2 ⟨p, List.mem_cons_self, hs⟩)
    have hrest : properties defs options ps = properties defs' options' ps := by
      refine ih fun s hs => ?_
      obtain ⟨q, hq, hbody⟩ := List.mem_filterMap.1 hs
      exact bodies s (List.mem_filterMap.2 ⟨q, List.mem_cons_of_mem _ hq, hbody⟩)
    rw [properties, properties, hfirst, hrest]

/-- The types of parameters depend on the types of nodes, and on where bodies are listed. -/
theorem parameterTypes_congr (placement : options.bodyParams = options'.bodyParams)
    (annotate : ∀ node, Schema.annotate defs options.resolveRefs node =
      Schema.annotate defs' options'.resolveRefs node) (ps : List Parameter) :
    parameterTypes defs options ps = parameterTypes defs' options' ps := by
  rw [parameterTypes, parameterTypes, properties_congr placement fun s _ => annotate (some s)]

end Parameters

/-- Sources between which an extraction cannot tell: they agree on the chain, the shared
parameters and what is to be generated, and the nodes of schemas have the same types. -/
structure Source.SameTypes (source source' : Source) : Prop where
  chain : source.chain = source'.chain
  parameters : source.document.parameters = source'.document.parameters
  bodyParams : source.options.bodyParams = source'.options.bodyParams
  pagination : source.options.pagination = source'.options.pagination
  annotate : ∀ node,
    Schema.annotate source.document.definitions source.options.resolveRefs node =
      Schema.annotate source'.document.definitions source'.options.resolveRefs node

namespace Source

variable {source source' : Source}

theorem SameTypes.resolveParameter (h : source.SameTypes source') :
    source.document.resolveParameter = source'.document.resolveParameter := by
  funext p
  rw [Document.resolveParameter, Document.resolveParameter, h.parameters]

theorem SameTypes.operationParameters (h : source.SameTypes source') (path : String)
    (op : Operation) :
    source.operationParameters path op = source'.operationParameters path op := by
  have hnotice : source.danglingNotice path = source'.danglingNotice path := by
    funext p
    rw [danglingNotice, danglingNotice, h.resolveParameter, h.chain]
  rw [operationParameters_eq, operationParameters_eq, listedParameters, listedParameters,
    hnotice, h.resolveParameter]

theorem SameTypes.operationTypes (h : source.SameTypes source') (path : String) (method : Method)
    (op : Operation) :
    source.operationTypes path method op = source'.operationTypes path method op := by
  have hresponse : ∀ status, source.responseType op status = source'.responseType op status := by
    intro status
    rw [responseType, responseType]
    simp only [h.annotate]
  simp only [Source.operationTypes, h.operationParameters, hresponse, h.pagination, h.chain,
    parameterTypes_congr h.bodyParams h.annotate]

theorem SameTypes.extractPaths (h : source.SameTypes source') (found : Catalogue)
    (paths : List (String × PathItem)) :
    source.extractPaths found paths = source'.extractPaths found paths := by
  induction paths generalizing found with
  | nil => rfl
  | cons p paths ih =>
    obtain ⟨path, item⟩ := p
    have hpath : source.addPath found path item = source'.addPath found path item := by
      rw [addPath, addPath]
      simp only [h.operationTypes, h.chain]
    rw [Source.extractPaths, Source.extractPaths, hpath]
    exact bind_congr fun found' => ih found'

/-- Sources with the same paths between which an extraction cannot tell have the same
catalogue, and the same notices and failure. -/
theorem SameTypes.extract (h : source.SameTypes source')
    (paths : source.document.paths = source'.document.paths) :
    source.extract = source'.extract := by
  rw [Source.extract, Source.extract, h.extractPaths, paths, h.chain]

end Source

end ChainApi
