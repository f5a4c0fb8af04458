import ChainApi.Proofs.Contents
import ChainApi.Proofs.Extraction
import ChainApi.Proofs.Shape

/-!
# ChainApi.Proofs.Lockstep

Documents that are alike are made into catalogues that are alike.  The way from a
document to a catalogue looks at a remark only to pass it on: it branches on kinds,
names, locations and references, and these are the same in both documents.  So two
runs take the same steps, one lemma for each of them, and end alike, or fail with
the same failure.

* `Schema.expressShape_alike` — schemas that agree but for their remarks, if their parts
  have types that end alike;
* `Schema.express_alike` — the types of schemas;
* `Source.operationTypes_alike` — the record of an operation;
* `Source.extract_alike` — the catalogue of a document;
* `Catalogue.build_alike` — the catalogue of several documents;
* `Catalogue.alike_of_build` — the texts in a catalogue keep the rules that the texts of
  the documents keep.
-/

namespace ChainApi

variable {rules : TextRules}

/-! ## schemas -/

namespace Schema

variable {defs defs' : Table Schema} {inline : Bool} {opened : List String} {s s' : Schema}

/-- Schemas that agree but for their remarks and for their parts, which are related one by
one. -/
structure ShapeAlike (rules : TextRules) (related : Schema → Schema → Prop) (s s' : Schema) :
    Prop where
  kind : s.kind = s'.kind
  comment : rules.Remarks s.comment s'.comment
  fields : s.kind = .object → List.Forall₂ (fun p q => p.1 = q.1 ∧ rules.key p.1 ∧
    (p.1 ≠ typeTag → related p.2 q.2)) s.fields s'.fields
  items : s.kind = .array → Option.Rel related s.items s'.items

/-- Properties of the same names, whose types end alike one by one. -/
theorem expressFields_alike {ps ps' : List (String × Schema)}
    (h : List.Forall₂ (fun p q => p.1 = q.1 ∧ rules.key p.1 ∧ (p.1 ≠ typeTag →
      Logged.Alike (Annotated.Alike rules) (p.2.express defs inline opened)
        (q.2.express defs' inline opened))) ps ps') :
    Logged.Alike (TypeExpr.FieldsAlike rules) (expressFields defs inline opened ps)
      (expressFields defs' inline opened ps') := by
  induction h with
  | nil =>
    rw [expressFields_nil, expressFields_nil]
    exact .pure .nil
  | @cons p q ps ps' hfirst _ ih =>
    obtain ⟨name, t⟩ := p
    obtain ⟨name', t'⟩ := q
    obtain ⟨hname, key, hexpress⟩ := hfirst
    simp only at hname key hexpress
    subst hname
    by_cases htag : name = typeTag
    · subst htag
      rw [expressFields_cons_typeTag, expressFields_cons_typeTag]
      exact ih.bind fun fs fs' hfs => .pure (.cons .none key .string hfs)
    · rw [expressFields_cons htag, expressFields_cons htag]
      refine (hexpress htag).bind fun a a' ha => ?_
      exact ih.bind fun fs fs' hfs => .pure (.cons ha.comment key ha.type hfs)

/-- Schemas that agree but for their remarks have types that are alike if their parts have. -/
theorem expressShape_alike (h : ShapeAlike rules (fun t t' =>
      Logged.Alike (Annotated.Alike rules) (t.express defs inline opened)
        (t'.express defs' inline opened)) s s') :
    Logged.Alike (Annotated.Alike rules) (s.expressShape defs inline opened)
      (s'.expressShape defs' inline opened) := by
  have hkind' := h.kind
  cases hkind : s.kind with
  | object =>
    rw [hkind] at hkind'
    rw [expressShape_object hkind, expressShape_object hkind'.symm]
    exact (expressFields_alike (h.fields hkind)).bind fun fs fs' hfs =>
      .pure ⟨.object hfs, h.comment⟩
  | array =>
    rw [hkind] at hkind'
    have hrel := h.items hkind
    generalize hitems : s.items = i, hitems' : s'.items = i' at hrel
    cases hrel with
    | none =>
      rw [expressShape_array_of_none hkind hitems,
        expressShape_array_of_none hkind'.symm hitems']
      exact .pure ⟨.array .unknown, h.comment⟩
    | some hi =>
      rw [expressShape_array_of_some hkind hitems,
        expressShape_array_of_some hkind'.symm hitems']
      exact hi.bind fun a a' ha => .pure ⟨.array ha.type, h.comment⟩
  | number =>
    rw [expressShape, expressShape, hkind, ← hkind', hkind]
    exact .pure ⟨.number, h.comment⟩
  | string =>
    rw [expressShape, expressShape, hkind, ← hkind', hkind]
    exact .pure ⟨.string, h.comment⟩
  | boolean =>
    rw [expressShape, expressShape, hkind, ← hkind', hkind]
    exact .pure ⟨.boolean, h.comment⟩
  | other name =>
    rw [expressShape, expressShape, hkind, ← hkind', hkind]
    exact .note _ _ (.pure ⟨.unknown, h.comment⟩)

/-- Alike properties have the same names, and their schemas are related if alike ones are. -/
theorem FieldsAlike.forall₂ {related : Schema → Schema → Prop} {ps ps' : List (String × Schema)}
    (h : FieldsAlike rules ps ps')
    (parts : ∀ p ∈ ps, p.1 ≠ typeTag → ∀ t', p.2.Alike rules t' → related p.2 t') :
    List.Forall₂ (fun p q => p.1 = q.1 ∧ rules.key p.1 ∧ (p.1 ≠ typeTag → related p.2 q.2))
      ps ps' := by
  induction ps generalizing ps' with
  | nil =>
    cases h
    exact .nil
  | cons p ps ih =>
    cases h with
    | cons key schema rest =>
      refine .cons ⟨rfl, key, fun other => parts _ List.mem_cons_self other _ schema⟩ ?_
      exact ih rest fun q listed => parts q (List.mem_cons_of_mem _ listed)

/-- Schemas that are alike agree but for their remarks, with parts that are alike in turn. -/
theorem Alike.shapeAlike {related : Schema → Schema → Prop} (h : s.Alike rules s')
    (parts : ∀ t t' : Schema, s.Part t → t.Alike rules t' → related t t') :
    ShapeAlike rules related s s' := by
  obtain ⟨type, _, comment, fields, items⟩ := h
  refine ⟨by rw [kind, kind, type], comment, fun kind => ?_, fun kind => ?_⟩
  · exact fields.forall₂ fun p listed other t' =>
      parts p.2 t' (.property kind listed other)
  · generalize hitems : s.items = i, hitems' : s'.items = i' at items
    cases items with
    | none => exact .none
    | some halike => exact .some (parts _ _ (.items kind hitems) halike)

theorem Alike.ref_eq (h : s.Alike rules s') : s.ref = s'.ref := by
  obtain ⟨_, ref, _, _, _⟩ := h
  exact ref

/-- Schemas that are alike have types that are alike, with definitions that are. -/
theorem express_alike (hdefs : Table.Alike (fun _ => True) (Schema.Alike rules) defs defs')
    (opened : List String) (s s' : Schema) (h : s.Alike rules s') :
    Logged.Alike (Annotated.Alike rules) (s.express defs inline opened)
      (s'.express defs' inline opened) := by
  induction opened, s using express_induction defs generalizing s' with
  | plain opened s ref ih =>
    rw [express_of_ref_none ref, express_of_ref_none (h.ref_eq ▸ ref)]
    exact expressShape_alike (h.shapeAlike fun t t' part => ih t part t')
  | missing opened s pointer ref missing =>
    have hget := hdefs.get? (referenceName pointer)
    rw [missing] at hget
    have missing' := rel_none_left.1 hget
    rw [express_of_missing ref missing, express_of_missing (h.ref_eq ▸ ref) missing']
    exact .pure ⟨.unknown, .none⟩
  | found opened s pointer target ref found ihParts ih =>
    have hget := hdefs.get? (referenceName pointer)
    rw [found] at hget
    obtain ⟨target', found', ht⟩ := rel_some_left.1 hget
    rw [express_of_found ref found, express_of_found (h.ref_eq ▸ ref) found']
    by_cases hinline : inline = true
    · rw [if_pos hinline, if_pos hinline]
      by_cases hopen : referenceName pointer ∈ opened
      · rw [if_pos hopen, if_pos hopen]
        exact .fail _
      · rw [if_neg hopen, if_neg hopen]
        exact ih hopen target' ht
    · rw [if_neg hinline, if_neg hinline]
      exact expressShape_alike (h.shapeAlike fun t t' part => ihParts t part t')

theorem annotate_alike {node node' : Option Schema}
    (hdefs : Table.Alike (fun _ => True) (Schema.Alike rules) defs defs')
    (h : Option.Rel (Schema.Alike rules) node node') :
    Logged.Alike (Annotated.Alike rules) (annotate defs inline node)
      (annotate defs' inline node') := by
  cases h with
  | none => exact .pure ⟨.unknown, .none⟩
  | some h => exact express_alike hdefs [] _ _ h

end Schema

/-! ## parameters -/

section Parameters

variable {defs defs' : Table Schema} {options : Options} {p p' : Parameter}
  {ps ps' : List Parameter}

theorem Parameter.Alike.primitiveType_eq (h : p.Alike rules p') :
    p.primitiveType = p'.primitiveType := by
  rw [primitiveType, primitiveType, h.format]

theorem Parameter.Alike.isPaging_eq (h : p.Alike rules p') : p.isPaging = p'.isPaging := by
  rw [isPaging, isPaging, h.location, h.name]

theorem Parameter.Alike.substitute_eq (h : p.Alike rules p') (path : List Char) :
    Parameter.substitute path p = Parameter.substitute path p' := by
  rw [substitute, substitute, h.location, h.name, h.primitiveType_eq]

theorem isPaginated_eq_of_alike (h : List.Forall₂ (Parameter.Alike rules) ps ps') :
    isPaginated ps = isPaginated ps' := by
  rw [isPaginated, isPaginated]
  induction h with
  | nil => rfl
  | cons hp _ ih => rw [List.any_cons, List.any_cons, hp.isPaging_eq, ih]

theorem endpointTemplate_eq_of_alike (h : List.Forall₂ (Parameter.Alike rules) ps ps')
    (path : String) : endpointTemplate path ps = endpointTemplate path ps' := by
  rw [endpointTemplate, endpointTemplate]
  congr 1
  generalize path.toList = cs
  induction h generalizing cs with
  | nil => rfl
  | cons hp _ ih => rw [List.foldl_cons, List.foldl_cons, hp.substitute_eq, ih]

/-- The type of a path or query parameter is one of the primitive types. -/
theorem primitiveType_alike (p : Parameter) :
    ∃ a : Annotated, a.Alike rules a ∧ p.primitiveType = a.text := by
  rw [Parameter.primitiveType]
  split
  · split
    · exact ⟨⟨.number, none⟩, ⟨.number, .none⟩, rfl⟩
    · exact ⟨⟨.string, none⟩, ⟨.string, .none⟩, rfl⟩
  · exact ⟨⟨.string, none⟩, ⟨.string, .none⟩, rfl⟩

/-- Properties of the same section that are alike. -/
def SectionAlike (rules : TextRules) (x x' : ParameterSection × Property) : Prop :=
  x.1 = x'.1 ∧ x.2.Alike rules x'.2

/-- The lines of path and query parameters that are alike. -/
theorem Parameter.Alike.given {name : String} (h : p.Alike rules p') (named : p.name = some name)
    (other : p.location ≠ some "body") (place : ParameterSection) :
    SectionAlike rules (place, ⟨p.description, displayName name, p.primitiveType⟩)
      (place, ⟨p'.description, displayName name, p'.primitiveType⟩) := by
  obtain ⟨a, ha, htype⟩ := primitiveType_alike p
  have hkey : rules.key (displayName name) := h.key _ (by simp [key?, named, other])
  exact ⟨rfl, h.description, rfl, hkey, a, a, ha, htype, h.primitiveType_eq ▸ htype⟩

/-- Parameters that are alike become properties that are. -/
theorem Parameter.property_alike
    (hdefs : Table.Alike (fun _ => True) (Schema.Alike rules) defs defs')
    (h : p.Alike rules p') :
    Logged.Alike (Option.Rel (SectionAlike rules)) (p.property defs options)
      (p'.property defs' options) := by
  cases p.placed with
  | unnamed unnamed =>
    rw [property_of_unnamed unnamed, property_of_unnamed (h.name ▸ unnamed)]
    exact .note _ _ (.pure .none)
  | path named located =>
    rw [property_of_path named located, property_of_path (h.name ▸ named) (h.location ▸ located)]
    exact .pure (.some (h.given named (by rw [located]; decide) .path))
  | query named located =>
    rw [property_of_query named located, property_of_query (h.name ▸ named) (h.location ▸ located)]
    exact .pure (.some (h.given named (by rw [located]; decide) .query))
  | @body name named located =>
    have hkey : rules.key (quoted name) := h.key _ (by simp [key?, named, located])
    rw [property_of_body named located, property_of_body (h.name ▸ named) (h.location ▸ located)]
    refine (Schema.annotate_alike hdefs h.schema).bind fun b b' hb => .pure (.some ?_)
    exact ⟨rfl, h.description, rfl, hkey, b, b', hb, rfl, rfl⟩
  | misplaced named elsewhere =>
    rw [property_of_misplaced named elsewhere,
      property_of_misplaced (h.name ▸ named) (h.location ▸ elsewhere)]
    exact .note _ _ (.pure .none)

theorem properties_alike (hdefs : Table.Alike (fun _ => True) (Schema.Alike rules) defs defs')
    (h : List.Forall₂ (Parameter.Alike rules) ps ps') :
    Logged.Alike (List.Forall₂ (SectionAlike rules)) (properties defs options ps)
      (properties defs' options ps') := by
  induction h with
  | nil => exact .pure .nil
  | cons hp _ ih =>
    rw [properties, properties]
    refine (Parameter.property_alike hdefs hp).bind fun x x' hx => ?_
    refine ih.bind fun xs xs' hxs => .pure ?_
    cases hx with
    | none => exact hxs
    | some hx => exact .cons hx hxs

theorem sectionOf_alike {xs xs' : List (ParameterSection × Property)} (place : ParameterSection)
    (h : List.Forall₂ (SectionAlike rules) xs xs') :
    List.Forall₂ (Property.Alike rules) (sectionOf place xs) (sectionOf place xs') := by
  rw [sectionOf, sectionOf, List.forall₂_map_left_iff, List.forall₂_map_right_iff]
  have hkept : ∀ x x', SectionAlike rules x x' →
      (decide (x.1 = place) = true ↔ decide (x'.1 = place) = true) := fun x x' hx => by
    rw [hx.1]
  exact (List.rel_filter hkept h).imp fun x x' hx => hx.2

/-- Lists of parameters that are alike have types that are. -/
theorem parameterTypes_alike
    (hdefs : Table.Alike (fun _ => True) (Schema.Alike rules) defs defs')
    (h : List.Forall₂ (Parameter.Alike rules) ps ps') :
    Logged.Alike (fun t t' => TypeText rules t.path t'.path ∧ TypeText rules t.query t'.query ∧
        TypeText rules t.body t'.body)
      (parameterTypes defs options ps) (parameterTypes defs' options ps') :=
  (properties_alike hdefs h).bind fun _ _ hxs => .pure
    ⟨.parameters (sectionOf_alike .path hxs), .parameters (sectionOf_alike .query hxs),
      .parameters (sectionOf_alike .body hxs)⟩

end Parameters

/-! ## operations -/

namespace Source

variable {source source' : Source} {path : String} {op op' : Operation}

/-- Sources of one chain, with one choice of options, whose documents are alike. -/
structure Alike (rules : TextRules) (source source' : Source) : Prop where
  chain : source.chain = source'.chain
  name : rules.name source.chain
  options : source.options = source'.options
  document : source.document.Alike rules source'.document

theorem listedParameters_alike (h : source.Alike rules source') (hop : op.Alike rules op') :
    List.Forall₂ (Parameter.Alike rules) (source.listedParameters op)
      (source'.listedParameters op') := by
  have hresolve : ∀ p p', Parameter.Alike rules p p' → Option.Rel (Parameter.Alike rules)
      (source.document.resolveParameter p) (source'.document.resolveParameter p') := by
    intro p p' hp
    rw [Document.resolveParameter, Document.resolveParameter, ← hp.ref]
    cases p.ref with
    | none => exact .some hp
    | some pointer => exact h.document.parameters.get? _
  exact List.rel_filterMap (fun p p' hp => hresolve p p' hp) hop.parameters

/-- The response to a status has types that are alike. -/
theorem responseType_alike (h : source.Alike rules source') (hop : op.Alike rules op')
    (status : String) :
    Logged.Alike (fun t t' => ∃ a a' : Annotated, a.Alike rules a' ∧ t = a.text ∧ t' = a'.text)
      (source.responseType op status) (source'.responseType op' status) := by
  have hget := hop.responses.get? status
  rw [responseType, responseType]
  cases hr : op.responses.get? status with
  | none =>
    rw [hr] at hget
    rw [rel_none_left.1 hget]
    exact .pure ⟨⟨.unknown, none⟩, ⟨.unknown, none⟩, ⟨.unknown, .none⟩, rfl, rfl⟩
  | some r =>
    rw [hr] at hget
    obtain ⟨r', hr', hschema⟩ := rel_some_left.1 hget
    rw [hr', ← h.options]
    refine Logged.Alike.bind (Schema.annotate_alike h.document.definitions hschema).mapError ?_
    exact fun a a' ha => .pure ⟨a, a', ha, rfl, rfl⟩

/-- Operations that are alike have records that are. -/
theorem operationTypes_alike {method : Method} (h : source.Alike rules source')
    (hop : op.Alike rules op') (hpath : rules.path path) :
    Logged.Alike (OperationTypes.Alike rules) (source.operationTypes path method op)
      (source'.operationTypes path method op') := by
  have hparams := listedParameters_alike h hop
  rw [operationTypes, operationTypes, operationParameters_eq, operationParameters_eq, ← h.options,
    ← h.chain]
  refine Logged.Alike.bind (.ok rfl rfl hparams) fun ps ps' hps => ?_
  refine (parameterTypes_alike h.document.definitions hps).mapError.bind fun t t' ht => ?_
  obtain ⟨htpath, htquery, htbody⟩ := ht
  refine (responseType_alike h hop "200").bind fun t200 t200' hsuccess => ?_
  refine (responseType_alike h hop "default").bind fun t0 t0' herror => .pure ?_
  obtain ⟨a, a', ha, rfl, rfl⟩ := hsuccess
  obtain ⟨b, b', hb, rfl, rfl⟩ := herror
  rw [← isPaginated_eq_of_alike hps, ← endpointTemplate_eq_of_alike hps]
  have hsuccess : ∀ paged : Bool, TypeText rules
      (if paged then a.text ++ pagingSuffix else a.text)
      (if paged then a'.text ++ pagingSuffix else a'.text) := by
    intro paged
    cases paged with
    | true => exact .paged ha
    | false => exact .response ha
  exact {
    method := rfl
    comment := hop.summary
    endpoint := .singleton h.name ⟨rfl, hpath, ps, rfl⟩
    path := .singleton h.name htpath
    query := .singleton h.name htquery
    body := .singleton h.name htbody
    success := .singleton h.name (hsuccess _)
    error := .singleton h.name (.response hb) }

/-! ## paths -/

variable {found found' : Catalogue} {item item' : PathItem}

/-- The operations that paths stand for are alike, and found under the same method. -/
theorem selected_alike (h : item.Alike rules item') :
    Option.Rel (fun x x' => x.1 = x'.1 ∧ Operation.Alike rules x.2 x'.2) item.selected
      item'.selected := by
  have hget := h.get
  have hpost := h.post
  obtain ⟨get, post, _⟩ := item
  obtain ⟨get', post', _⟩ := item'
  simp only at hget hpost
  cases hget with
  | some hop => exact .some ⟨rfl, hop⟩
  | none =>
    cases hpost with
    | some hop => exact .some ⟨rfl, hop⟩
    | none => exact .none

theorem exists_selected_of_alike {method : Method} (h : item.Alike rules item')
    (selected : item.selected = some (method, op)) :
    ∃ op', item'.selected = some (method, op') ∧ op.Alike rules op' := by
  have hrel := selected_alike h
  rw [selected] at hrel
  obtain ⟨⟨method', op'⟩, selected', hmethod, hop⟩ := rel_some_left.1 hrel
  simp only at hmethod hop
  exact ⟨op', hmethod ▸ selected', hop⟩

/-- Paths that are alike add operations that are. -/
theorem addPath_alike (h : source.Alike rules source') (hfound : found.Alike rules found')
    (hitem : item.Alike rules item') (hpath : rules.path path) :
    Logged.Alike (Catalogue.Alike rules) (source.addPath found path item)
      (source'.addPath found' path item') := by
  cases item.visited found with
  | unsupported unsupported =>
    have hrel := selected_alike hitem
    rw [unsupported] at hrel
    rw [addPath_of_unsupported unsupported, addPath_of_unsupported (rel_none_left.1 hrel)]
    exact .note _ _ (.pure hfound)
  | unnamed selected unnamed =>
    obtain ⟨op', selected', hop⟩ := exists_selected_of_alike hitem selected
    rw [addPath_of_unnamed selected unnamed,
      addPath_of_unnamed selected' (hop.operationId ▸ unnamed), h.chain]
    exact .fail _
  | repeated selected named nonempty taken =>
    obtain ⟨op', selected', hop⟩ := exists_selected_of_alike hitem selected
    rw [addPath_of_taken selected named nonempty taken,
      addPath_of_taken selected' (hop.operationId ▸ named) nonempty (hfound.keys_eq ▸ taken)]
    exact .note _ _ (.pure hfound)
  | @new method op id selected named nonempty free =>
    obtain ⟨op', selected', hop⟩ := exists_selected_of_alike hitem selected
    rw [addPath_of_free selected named nonempty free,
      addPath_of_free selected' (hop.operationId ▸ named) nonempty (hfound.keys_eq ▸ free)]
    refine (operationTypes_alike h hop hpath).bind fun r r' hr => .pure ?_
    exact hfound.insert (Table.contains_eq_false_iff.2 free) (hop.name id named) hr

theorem extractPaths_alike (h : source.Alike rules source') (hfound : found.Alike rules found')
    {paths paths' : List (String × PathItem)} (hpaths : List.Forall₂ (fun e e' => e.1 = e'.1 ∧
      rules.path e.1 ∧ PathItem.Alike rules e.2 e'.2) paths paths') :
    Logged.Alike (Catalogue.Alike rules) (source.extractPaths found paths)
      (source'.extractPaths found' paths') := by
  induction hpaths generalizing found found' with
  | nil => exact .pure hfound
  | @cons e e' _ _ hfirst _ ih =>
    obtain ⟨path, item⟩ := e
    obtain ⟨path', item'⟩ := e'
    obtain ⟨hpath, hrule, hitem⟩ := hfirst
    simp only at hpath hrule hitem
    subst hpath
    rw [extractPaths, extractPaths]
    exact (addPath_alike h hfound hitem hrule).bind fun c c' hc => ih hc

/-- Documents that are alike have catalogues that are. -/
theorem extract_alike (h : source.Alike rules source') :
    Logged.Alike (Catalogue.Alike rules) source.extract source'.extract := by
  rw [extract, extract]
  refine (extractPaths_alike h .empty h.document.paths).bind fun c c' hc => ?_
  exact .note _ _ (.pure hc)

end Source

/-! ## catalogues -/

theorem TextRules.Remarks.or {a a' b b' : Option String} (ha : rules.Remarks a a')
    (hb : rules.Remarks b b') : rules.Remarks (a.or b) (a'.or b') := by
  cases ha with
  | none => exact hb
  | some blank left right => exact .some blank left right

theorem OperationTypes.Alike.merge {r r' s s' : OperationTypes} (hr : r.Alike rules r')
    (hs : s.Alike rules s') : (r.merge s).Alike rules (r'.merge s') where
  method := hr.method
  comment := hr.comment.or hs.comment
  endpoint := hr.endpoint.union hs.endpoint
  path := hr.path.union hs.path
  query := hr.query.union hs.query
  body := hr.body.union hs.body
  success := hr.success.union hs.success
  error := hr.error.union hs.error

namespace Catalogue

theorem Alike.merge {c c' d d' : Catalogue} (hc : c.Alike rules c') (hd : d.Alike rules d') :
    (Catalogue.merge c d).Alike rules (Catalogue.merge c' d') :=
  hc.unionWith hd fun _ _ _ _ hr hs => hr.merge hs

/-- Lists of the same chains whose documents are alike. -/
def ChainsAlike (rules : TextRules) (chains chains' : List (String × Document)) : Prop :=
  List.Forall₂ (fun x x' => x.1 = x'.1 ∧ rules.name x.1 ∧ Document.Alike rules x.2 x'.2) chains
    chains'

variable {options : Options} {chains chains' : List (String × Document)}

theorem buildFrom_alike (h : ChainsAlike rules chains chains') (seen : List String)
    {c c' : Catalogue} (hc : c.Alike rules c') :
    Logged.Alike (Catalogue.Alike rules) (buildFrom options seen c chains)
      (buildFrom options seen c' chains') := by
  induction h generalizing seen c c' with
  | nil => exact .pure hc
  | @cons x x' _ _ hfirst _ ih =>
    obtain ⟨chain, document⟩ := x
    obtain ⟨chain', document'⟩ := x'
    obtain ⟨hchain, hname, hdocument⟩ := hfirst
    simp only at hchain hname hdocument
    subst hchain
    rw [buildFrom, buildFrom]
    split
    · exact .fail _
    · have hsource : Source.Alike rules ⟨chain, document, options⟩
          ⟨chain, document', options⟩ := ⟨rfl, hname, rfl, hdocument⟩
      refine (Source.extract_alike hsource).mapError.bind fun d d' hd => ?_
      refine Logged.Alike.bind (.ok rfl rfl (hc.merge hd)) fun m m' hm => ?_
      exact ih _ hm

/-- Chains whose documents are alike have catalogues that are, or fail alike. -/
theorem build_alike (h : ChainsAlike rules chains chains') :
    Logged.Alike (Catalogue.Alike rules) (build options chains) (build options chains') := by
  rw [build, build]
  cases h with
  | nil => exact .fail _
  | cons hfirst hrest => exact buildFrom_alike (.cons hfirst hrest) [] .empty

/-- Documents whose texts keep the rules are alike to themselves, and so is what is made
of them. -/
theorem alike_of_build {c : Catalogue}
    (keeps : ∀ chain ∈ chains, rules.name chain.1 ∧ Document.Keeps rules chain.2)
    (built : (build options chains).outcome = .ok c) : ∃ c', c.Alike rules c' := by
  have hchains : ChainsAlike rules chains chains := List.forall₂_same.2 fun chain hmem =>
    ⟨rfl, (keeps chain hmem).1, Document.alike_self (keeps chain hmem).2⟩
  have halike : Logged.Alike (Catalogue.Alike rules) (build options chains)
      (build options chains) := build_alike hchains
  cases halike with
  | ok left _ related =>
    rw [built] at left
    cases left
    exact ⟨_, related⟩
  | error left _ =>
    rw [built] at left
    contradiction

end Catalogue

end ChainApi
