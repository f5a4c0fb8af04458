import ChainApi.Document

/-!
# ChainApi.Document.Writer

Writing the typed records of a description as data.  A field stands under its name in
the description, and a field that is absent is left out.  The other members of a path
follow its fields as they are.

* `Value.record` — the members that are there;
* `Value.get?_record` — a member is there if its field is;
* `Schema.toValue`, `Parameter.toValue`, `Response.toValue`, `Operation.toValue`,
  `PathItem.toValue`, `Document.toValue` — one writer per record.
-/

namespace ChainApi

namespace Value

/-- A mapping of the members that are there. -/
def record (members : List (String × Option Value)) : Value :=
  object (members.filterMap fun m => m.2.map fun v => (m.1, v))

@[simp]
theorem object_ne_null (ms : List (String × Value)) : object ms ≠ .null := by
  simp [object]

@[simp]
theorem record_ne_null (ms : List (String × Option Value)) : record ms ≠ .null :=
  object_ne_null _

theorem get?_object_cons (k : String) (v : Value) (ms : List (String × Value)) (name : String) :
    (object ((k, v) :: ms)).get? name = if k = name then some v else (object ms).get? name := by
  simp only [object, get?, entries, List.map_cons, List.find?_cons]
  by_cases h : k = name <;> simp [h]

/-- A member of a record is there if the field is. -/
theorem get?_record {ms : List (String × Option Value)} (nodup : (ms.map Prod.fst).Nodup)
    (name : String) : (record ms).get? name = (ms.lookup name).join := by
  induction ms with
  | nil => rfl
  | cons m ms ih =>
    obtain ⟨k, o⟩ := m
    rw [List.map_cons, List.nodup_cons] at nodup
    have hrest := ih nodup.2
    by_cases h : name = k
    · subst h
      rw [List.lookup_cons_self, Option.join_some]
      cases o with
      | some v => exact (get?_object_cons ..).trans (if_pos rfl)
      | none =>
        have hnone : ms.lookup name = none :=
          List.lookup_eq_none_iff.2 fun m hm => bne_iff_ne.2 fun hk =>
            nodup.1 (List.mem_map.2 ⟨m, hm, hk.symm⟩)
        exact hrest.trans (by rw [hnone, Option.join_none])
    · have hb : (name == k) = false := beq_eq_false_iff_ne.2 h
      rw [List.lookup_cons, hb]
      cases o with
      | some v => exact ((get?_object_cons ..).trans (if_neg (Ne.symm h))).trans hrest
      | none => exact hrest

/-- A mapping of what a table holds. -/
def ofTable (write : α → Value) (t : Table α) : Value :=
  object (t.entries.map fun e => (e.1, write e.2))

end Value

open Value

namespace Schema

mutual

/-- Write a schema. -/
def toValue : Schema → Value
  | ⟨type, title, description, properties, items, ref⟩ =>
    record [("type", type.map .str), ("title", title.map .str),
      ("description", description.map .str), ("properties", propertiesToValue properties),
      ("items", itemsToValue items), ("$ref", ref.map .str)]

/-- Write the items of an array. -/
def itemsToValue : Option Schema → Option Value
  | none => none
  | some s => some s.toValue

/-- Write the parts of an object. -/
def propertiesToValue : Option (List (String × Schema)) → Option Value
  | none => none
  | some ps => some (object (fieldsToValue ps))

/-- Write named parts. -/
def fieldsToValue : List (String × Schema) → List (String × Value)
  | [] => []
  | (k, s) :: ps => (k, s.toValue) :: fieldsToValue ps

end

theorem itemsToValue_eq (items : Option Schema) : itemsToValue items = items.map toValue := by
  cases items <;> simp [itemsToValue]

theorem fieldsToValue_eq (ps : List (String × Schema)) :
    fieldsToValue ps = ps.map fun p => (p.1, p.2.toValue) := by
  induction ps with
  | nil => simp [fieldsToValue]
  | cons p ps ih => simp [fieldsToValue, ih]

theorem propertiesToValue_eq (properties : Option (List (String × Schema))) :
    propertiesToValue properties =
      properties.map fun ps => object (ps.map fun p => (p.1, p.2.toValue)) := by
  cases properties <;> simp [propertiesToValue, fieldsToValue_eq]

/-- The members of a written schema. -/
def members (s : Schema) : List (String × Option Value) :=
  [("type", s.type.map .str), ("title", s.title.map .str),
    ("description", s.description.map .str),
    ("properties", s.properties.map fun ps => object (ps.map fun p => (p.1, p.2.toValue))),
    ("items", s.items.map toValue), ("$ref", s.ref.map .str)]

theorem toValue_eq (s : Schema) : s.toValue = record s.members := by
  obtain ⟨type, title, description, properties, items, ref⟩ := s
  rw [toValue, propertiesToValue_eq, itemsToValue_eq, members]

end Schema

/-- The members of a written parameter. -/
def Parameter.members (p : Parameter) : List (String × Option Value) :=
  [("name", p.name.map .str), ("in", p.location.map .str),
    ("description", p.description.map .str), ("format", p.format.map .str),
    ("schema", p.schema.map Schema.toValue), ("$ref", p.ref.map .str)]

/-- Write a parameter. -/
def Parameter.toValue (p : Parameter) : Value := record p.members

/-- The members of a written response. -/
def Response.members (r : Response) : List (String × Option Value) :=
  [("description", some (.str r.description)), ("schema", r.schema.map Schema.toValue)]

/-- Write a response. -/
def Response.toValue (r : Response) : Value := record r.members

/-- The members of a written operation. -/
def Operation.members (op : Operation) : List (String × Option Value) :=
  [("operationId", op.operationId.map .str), ("summary", op.summary.map .str),
    ("parameters", op.parameters.map fun ps => .list (ps.map Parameter.toValue)),
    ("responses", some (ofTable Response.toValue op.responses))]

/-- Write an operation. -/
def Operation.toValue (op : Operation) : Value := record op.members

/-- The fields of a written path. -/
def PathItem.fields (item : PathItem) : List (String × Option Value) :=
  [("get", item.get.map Operation.toValue), ("post", item.post.map Operation.toValue)]

/-- The members of a written path: its fields, and its other members as they are. -/
def PathItem.members (item : PathItem) : List (String × Option Value) :=
  item.fields ++ item.extra.entries.map fun e => (e.1, some e.2)

/-- Write a path. -/
def PathItem.toValue (item : PathItem) : Value := record item.members

/-- The members of a written description. -/
def Document.members (doc : Document) : List (String × Option Value) :=
  [("swagger", doc.swagger.map .str), ("info", some doc.info),
    ("paths", some (ofTable PathItem.toValue doc.paths)),
    ("definitions", some (ofTable Schema.toValue doc.definitions)),
    ("parameters", some (ofTable Parameter.toValue doc.parameters))]

/-- Write a description. -/
def Document.toValue (doc : Document) : Value := record doc.members

end ChainApi
