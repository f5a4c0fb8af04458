import ChainApi.Proofs.Alike

/-!
# ChainApi.Proofs.Contents

The texts that a document contains, as lists: its operation ids, its parameters, its
schemas to any depth with their properties, and its remarks.  What is asked of a
document is asked of these lists.

* `Schema.nodes` — a schema and all schemas inside it;
* `Document.names` — the names of operations, parameters and properties;
* `Document.remarks` — its titles, descriptions and summaries;
* `Document.alike_self` — a document whose texts keep the rules is alike to itself.
-/

namespace ChainApi

/-! ## schemas -/

mutual

/-- A schema and all schemas inside it. -/
def Schema.nodes : Schema → List Schema
  | s@⟨_, _, _, properties, items, _⟩ => s :: (nodesOfProperties properties ++ nodesOfItems items)

/-- The schemas inside the items of an array. -/
def nodesOfItems : Option Schema → List Schema
  | none => []
  | some s => s.nodes

/-- The schemas inside the parts of an object, if it lists any. -/
def nodesOfProperties : Option (List (String × Schema)) → List Schema
  | none => []
  | some ps => nodesOfFields ps

/-- The schemas inside a list of named parts. -/
def nodesOfFields : List (String × Schema) → List Schema
  | [] => []
  | (_, s) :: ps => s.nodes ++ nodesOfFields ps

end

namespace Schema

variable {s t u : Schema} {name : String} {ps : List (String × Schema)} {rules : TextRules}

theorem mem_nodes_self (s : Schema) : s ∈ s.nodes := by
  obtain ⟨_, _, _, _, _, _⟩ := s
  rw [nodes]
  exact List.mem_cons_self

theorem mem_nodesOfFields (listed : (name, t) ∈ ps) (h : u ∈ t.nodes) : u ∈ nodesOfFields ps := by
  induction ps with
  | nil => simp at listed
  | cons p ps ih =>
    rw [nodesOfFields, List.mem_append]
    rcases List.mem_cons.1 listed with rfl | listed
    · exact .inl h
    · exact .inr (ih listed)

theorem mem_nodes_of_property (listed : (name, t) ∈ s.fields) (h : u ∈ t.nodes) :
    u ∈ s.nodes := by
  obtain ⟨_, _, _, properties, _, _⟩ := s
  cases properties with
  | none => simp [fields] at listed
  | some ps =>
    rw [nodes, nodesOfProperties]
    exact List.mem_cons_of_mem _ (List.mem_append_left _ (mem_nodesOfFields listed h))

theorem mem_nodes_of_items (items : s.items = some t) (h : u ∈ t.nodes) : u ∈ s.nodes := by
  obtain ⟨_, _, _, _, _, _⟩ := s
  simp only at items
  subst items
  rw [nodes, nodesOfItems]
  exact List.mem_cons_of_mem _ (List.mem_append_right _ h)

/-- The title and the description of a schema. -/
def remarks (s : Schema) : List String := s.title.toList ++ s.description.toList

theorem mem_remarks_of_comment {remark : String} (h : s.comment = some remark) :
    remark ∈ s.remarks := by
  obtain ⟨_, title, description, _, _, _⟩ := s
  cases title <;> simp_all [comment, remarks]

/-- The properties and remarks of a schema, to any depth, keep the rules. -/
def Keeps (rules : TextRules) (s : Schema) : Prop :=
  ∀ t ∈ s.nodes, (∀ p ∈ t.fields, rules.key p.1) ∧ ∀ r ∈ t.remarks, rules.remark r

theorem fieldsAlike_self (h : ∀ p ∈ ps, rules.key p.1 ∧ p.2.Alike rules p.2) :
    FieldsAlike rules ps ps := by
  induction ps with
  | nil => exact .nil
  | cons p ps ih =>
    obtain ⟨key, alike⟩ := h p List.mem_cons_self
    exact .cons key alike (ih fun q hmem => h q (List.mem_cons_of_mem _ hmem))

end Schema

theorem TextRules.remarks_self {rules : TextRules} {remark : Option String}
    (h : ∀ r, remark = some r → rules.remark r) : rules.Remarks remark remark := by
  cases remark with
  | none => exact .none
  | some r => exact .some Iff.rfl (h r rfl) (h r rfl)

/-- A schema whose texts keep the rules is alike to itself. -/
theorem Schema.alike_self {rules : TextRules} (s : Schema) (h : s.Keeps rules) :
    s.Alike rules s := by
  obtain ⟨hkeys, hremarks⟩ := h s s.mem_nodes_self
  refine .intro rfl rfl ?_ ?_ ?_
  · exact TextRules.remarks_self fun r hr => hremarks r (mem_remarks_of_comment hr)
  · refine fieldsAlike_self fun p hmem => ⟨hkeys p hmem, ?_⟩
    have hlist := List.sizeOf_lt_of_mem hmem
    have hfields := s.sizeOf_fields
    have hpair : sizeOf p = 1 + sizeOf p.1 + sizeOf p.2 := rfl
    exact alike_self p.2 fun t ht => h t (mem_nodes_of_property hmem ht)
  · cases hitems : s.items with
    | none => exact .none
    | some i =>
      have hless := sizeOf_items hitems
      exact .some (alike_self i fun t ht => h t (mem_nodes_of_items hitems ht))
termination_by sizeOf s

/-! ## documents -/

namespace Document

/-- The operations that a document declares under `get` or `post`. -/
def operations (doc : Document) : List Operation :=
  doc.paths.values.flatMap fun item => item.get.toList ++ item.post.toList

/-- The ids of the operations. -/
def operationIds (doc : Document) : List String := doc.operations.filterMap (·.operationId)

/-- The parameters of the operations and the shared ones. -/
def allParameters (doc : Document) : List Parameter :=
  doc.parameters.values ++ doc.operations.flatMap fun op => op.parameters.getD []

/-- All schemas: the definitions, those of parameters and responses, and the schemas
inside them. -/
def schemas (doc : Document) : List Schema :=
  (doc.definitions.values ++ doc.allParameters.filterMap (·.schema) ++
    doc.operations.flatMap fun op => op.responses.values.filterMap (·.schema)).flatMap Schema.nodes

/-- The names of the properties of all schemas. -/
def propertyNames (doc : Document) : List String :=
  doc.schemas.flatMap fun s => s.fields.map Prod.fst

/-- The names in a document: of operations, of parameters and of properties. -/
def names (doc : Document) : List String :=
  doc.operationIds ++ doc.allParameters.filterMap (·.name) ++ doc.propertyNames

/-- The titles, descriptions and summaries of a document. -/
def remarks (doc : Document) : List String :=
  doc.schemas.flatMap Schema.remarks ++ doc.allParameters.filterMap (·.description) ++
    doc.operations.filterMap (·.summary)

/-- The texts of a document keep the rules. -/
structure Keeps (rules : TextRules) (doc : Document) : Prop where
  ids : ∀ id ∈ doc.operationIds, rules.name id
  parameters : ∀ p ∈ doc.allParameters, ∀ key, p.key? = some key → rules.key key
  properties : ∀ name ∈ doc.propertyNames, rules.key name
  paths : ∀ path ∈ doc.paths.keys, rules.path path
  remarks : ∀ remark ∈ doc.remarks, rules.remark remark

variable {rules : TextRules} {doc : Document} {op : Operation}

theorem Keeps.schema {s : Schema} (h : doc.Keeps rules)
    (hroot : s ∈ doc.definitions.values ++ doc.allParameters.filterMap (·.schema) ++
      doc.operations.flatMap fun op => op.responses.values.filterMap (·.schema)) :
    s.Alike rules s := by
  refine s.alike_self fun t ht => ?_
  have hmem : t ∈ doc.schemas := List.mem_flatMap.2 ⟨s, hroot, ht⟩
  refine ⟨fun p hp => ?_, fun r hr => ?_⟩
  · exact h.properties _ (List.mem_flatMap.2 ⟨t, hmem, List.mem_map_of_mem hp⟩)
  · exact h.remarks r (List.mem_append_left _ (List.mem_append_left _
      (List.mem_flatMap.2 ⟨t, hmem, hr⟩)))

theorem Keeps.parameter {p : Parameter} (h : doc.Keeps rules) (hp : p ∈ doc.allParameters) :
    p.Alike rules p where
  name := rfl
  location := rfl
  format := rfl
  ref := rfl
  key := h.parameters p hp
  description := TextRules.remarks_self fun r hr => h.remarks r (List.mem_append_left _
    (List.mem_append_right _ (List.mem_filterMap.2 ⟨p, hp, hr⟩)))
  schema := by
    cases hs : p.schema with
    | none => exact .none
    | some s => exact .some (h.schema (List.mem_append_left _ (List.mem_append_right _
        (List.mem_filterMap.2 ⟨p, hp, hs⟩))))

theorem Keeps.operation (h : doc.Keeps rules) (hop : op ∈ doc.operations) :
    op.Alike rules op where
  operationId := rfl
  name := fun id hid => h.ids id (List.mem_filterMap.2 ⟨op, hop, hid⟩)
  summary := TextRules.remarks_self fun r hr => h.remarks r (List.mem_append_right _
    (List.mem_filterMap.2 ⟨op, hop, hr⟩))
  parameters := List.forall₂_same.2 fun _ hp => h.parameter
    (List.mem_append_right _ (List.mem_flatMap.2 ⟨op, hop, hp⟩))
  responses := List.forall₂_same.2 fun e he => by
    refine ⟨rfl, trivial, ?_⟩
    rw [Response.Alike]
    cases hs : e.2.schema with
    | none => exact .none
    | some s =>
      have hvalue : s ∈ op.responses.values.filterMap (·.schema) :=
        List.mem_filterMap.2 ⟨e.2, List.mem_map_of_mem he, hs⟩
      exact .some (h.schema (List.mem_append_right _ (List.mem_flatMap.2 ⟨op, hop, hvalue⟩)))

/-- A document whose texts keep the rules is alike to itself. -/
theorem alike_self (h : doc.Keeps rules) : doc.Alike rules doc where
  paths := List.forall₂_same.2 fun e he => by
    have hvalue : e.2 ∈ doc.paths.values := List.mem_map_of_mem he
    have hop : ∀ op ∈ e.2.get.toList ++ e.2.post.toList, op.Alike rules op := fun op hop =>
      h.operation (List.mem_flatMap.2 ⟨e.2, hvalue, hop⟩)
    refine ⟨rfl, h.paths _ (List.mem_map_of_mem he), ?_, ?_⟩
    · cases hget : e.2.get with
      | none => exact .none
      | some op => exact .some (hop op (by simp [hget]))
    · cases hpost : e.2.post with
      | none => exact .none
      | some op => exact .some (hop op (by simp [hpost]))
  definitions := List.forall₂_same.2 fun e he => ⟨rfl, trivial, h.schema
    (List.mem_append_left _ (List.mem_append_left _ (List.mem_map_of_mem he)))⟩
  parameters := List.forall₂_same.2 fun e he => ⟨rfl, trivial, h.parameter
    (List.mem_append_left _ (List.mem_map_of_mem he))⟩

end Document

end ChainApi
