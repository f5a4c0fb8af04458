import ChainApi.Proofs.Failures

/-!
# ChainApi.Proofs.Records

Which path a record of a catalogue comes from.  The paths of a document are taken in
order, and the first one that carries an id makes the record of that id; a path that
carries it again is passed over.

* `Document.pathOf?` — the first path of a document that carries an id;
* `Source.AddsPaths.get?_of_mem` — a record that was found is not changed;
* `Source.keys_extract` — the ids of a catalogue, in order of their first occurrence;
* `Source.typed_of_extract` — each record is that of the first path that carries its id.
-/

namespace ChainApi

/-- Does the operation of a path carry an id? -/
def carriesId (id : String) (p : String × PathItem) : Bool := p.2.operationId? == some id

/-- The first path of a document whose operation carries an id. -/
def Document.pathOf? (doc : Document) (id : String) : Option (String × PathItem) :=
  doc.paths.entries.find? (carriesId id)

namespace Source

variable {source : Source} {found c : Catalogue} {path id : String} {item : PathItem}
  {paths : List (String × PathItem)} {r : OperationTypes}

/-- A path that adds nothing of its own has the id of an operation that was found, or no
operation at all. -/
theorem AddsPath.keys (h : source.AddsPath found path item c) :
    c.keys = found.keys ++ (item.operationId?.toList.filter fun id => !found.keys.contains id) := by
  rw [PathItem.operationId?]
  cases h with
  | skipped unsupported => simp [unsupported]
  | repeated selected named _ taken => simp [selected, named, taken]
  | added selected named _ free _ => simp [selected, named, Table.keys_insert, free]

/-- One path: a record that was found is not changed. -/
theorem AddsPath.get?_of_mem (h : source.AddsPath found path item c) (known : id ∈ found.keys) :
    c.get? id = found.get? id := by
  cases h with
  | skipped => rfl
  | repeated => rfl
  | added _ _ _ free _ =>
    rw [Table.get?_insert, if_neg]
    rintro rfl
    exact free known

theorem AddsPath.mem_keys (h : source.AddsPath found path item c) (known : id ∈ found.keys) :
    id ∈ c.keys := by
  rw [h.keys]
  exact List.mem_append_left _ known

/-- All paths: a record that was found is not changed. -/
theorem AddsPaths.get?_of_mem (h : source.AddsPaths found paths c) (known : id ∈ found.keys) :
    c.get? id = found.get? id := by
  induction h with
  | nil => rfl
  | cons adds _ ih => rw [ih (adds.mem_keys known), adds.get?_of_mem known]

theorem AddsPaths.keys (h : source.AddsPaths found paths c) :
    c.keys = (found.keys ++ paths.filterMap fun p => p.2.operationId?).eraseDups := by
  induction h with
  | @nil found =>
    rw [List.filterMap_nil, List.append_nil,
      eraseDups_of_nodup (show found.keys.Nodup from found.nodup_keys)]
  | @cons _ _ _ path item paths adds _ ih =>
    have hlist : ((path, item) :: paths).filterMap (fun p => p.2.operationId?) =
        item.operationId?.toList ++ paths.filterMap fun p => p.2.operationId? := by
      rw [List.filterMap_cons]
      cases item.operationId? <;> rfl
    rw [ih, adds.keys, hlist, eraseDups_append_filter]

/-- The ids of a catalogue are those of the paths of the document, in order of their first
occurrence. -/
theorem keys_extract (h : source.extract.outcome = .ok c) :
    c.keys = (source.document.paths.entries.filterMap fun p => p.2.operationId?).eraseDups := by
  rw [(extract_eq_ok_iff.1 h).keys, Table.keys_empty, List.nil_append]

/-- One path: the record of a new id that it carries is that of its operation. -/
theorem AddsPath.typed (h : source.AddsPath found path item c) (new : id ∉ found.keys)
    (carried : item.operationId? = some id) (hr : c.get? id = some r) :
    ∃ method op, item.selected = some (method, op) ∧
      (source.operationTypes path method op).outcome = .ok r := by
  cases h with
  | skipped => exact absurd (Table.mem_keys_of_get? hr) new
  | repeated => exact absurd (Table.mem_keys_of_get? hr) new
  | added selected named _ _ typed =>
    rw [PathItem.operationId?, selected, Option.bind_some, named, Option.some.injEq] at carried
    rw [Table.get?_insert, if_pos carried.symm, Option.some.injEq] at hr
    exact ⟨_, _, selected, hr ▸ typed⟩

/-- All paths: the record of a new id is that of the first of them that carries it. -/
theorem AddsPaths.typed (h : source.AddsPaths found paths c) (new : id ∉ found.keys)
    (hr : c.get? id = some r) :
    ∃ path item method op,
      paths.find? (carriesId id) = some (path, item) ∧
      item.selected = some (method, op) ∧
      (source.operationTypes path method op).outcome = .ok r := by
  induction h with
  | nil => exact absurd (Table.mem_keys_of_get? hr) new
  | @cons _ next _ path item _ adds rest ih =>
    by_cases carried : item.operationId? = some id
    · have hcarries : carriesId id (path, item) = true := beq_iff_eq.2 carried
      have hknown : id ∈ next.keys := by
        rw [adds.keys, carried]
        simp [new]
      rw [rest.get?_of_mem hknown] at hr
      obtain ⟨method, op, selected, typed⟩ := adds.typed new carried hr
      exact ⟨path, item, method, op, List.find?_cons_of_pos hcarries, selected, typed⟩
    · have hcarries : ¬ carriesId id (path, item) = true := fun heq => carried (beq_iff_eq.1 heq)
      rw [List.find?_cons_of_neg hcarries]
      refine ih (fun hknown => ?_) hr
      rw [adds.keys, List.mem_append] at hknown
      rcases hknown with hknown | hknown
      · exact new hknown
      · exact carried (Option.mem_toList.1 (List.mem_of_mem_filter hknown))

/-- Each record of the catalogue of a document is that of the first path that carries its
id. -/
theorem typed_of_extract (h : source.extract.outcome = .ok c) (hr : c.get? id = some r) :
    ∃ path item method op, source.document.pathOf? id = some (path, item) ∧
      item.selected = some (method, op) ∧
      (source.operationTypes path method op).outcome = .ok r :=
  (extract_eq_ok_iff.1 h).typed (by simp) hr

end Source

end ChainApi
