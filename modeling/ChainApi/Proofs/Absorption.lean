import ChainApi.Catalogue

/-!
# ChainApi.Proofs.Absorption

Catalogues that are merged again.  A union is the left table as soon as that one has all keys
of the right one and keeps its values when they are combined.  This is so for a table and
itself, and for a union and either of the tables that went into it, provided that it is so for
the combination of two values; and merging two records is such a combination.

* `Table.unionWith_eq_left` — when a union is the left table;
* `Table.restrict_unionWith` — a union under the keys of the left table;
* `OperationTypes.restrict_merge` — a merged record without what the right one adds;
* `Catalogue.merge_absorbs` — merging again what was merged before changes nothing, and
  merging changes nothing in the left catalogue but comments that it lacks.
-/

namespace ChainApi

/-! ## unions -/

namespace Table

variable {α : Type u} {β : Type v} {f : α → α → α} {s t : Table α}

/-- A union is the left table if that one has all keys of the right one and its values are
kept. -/
theorem unionWith_eq_left
    (h : ∀ k b, t.get? k = some b → ∃ a, s.get? k = some a ∧ f a b = a) :
    unionWith f s t = s := by
  have hkeys : ∀ k ∈ t.keys, (!s.contains k) = false := by
    intro k hk
    obtain ⟨b, hb⟩ := Option.isSome_iff_exists.1 (isSome_get?_iff.2 hk)
    obtain ⟨a, ha, -⟩ := h k b hb
    rw [contains_iff_mem_keys.2 (mem_keys_of_get? ha), Bool.not_true]
  apply ext_get?
  · have hnone : (t.keys.filter fun k => !s.contains k) = [] := by
      rw [List.filter_eq_nil_iff]
      exact fun k hk => by rw [hkeys k hk]; exact Bool.false_ne_true
    rw [keys_unionWith, hnone, List.append_nil]
  · intro k
    rw [get?_unionWith]
    cases ht : t.get? k with
    | none => cases s.get? k <;> rfl
    | some b =>
      obtain ⟨a, ha, hab⟩ := h k b ht
      rw [ha]
      exact congrArg some hab

/-- A table together with itself. -/
theorem unionWith_self (idem : ∀ a, f a a = a) (s : Table α) : unionWith f s s = s :=
  unionWith_eq_left fun _ a ha => ⟨a, ha, idem a⟩

/-- A union together with its left table once more. -/
theorem unionWith_unionWith_left (idem : ∀ a, f a a = a) (absorb : ∀ a b, f (f a b) a = f a b)
    (s t : Table α) : unionWith f (unionWith f s t) s = unionWith f s t := by
  refine unionWith_eq_left fun k a ha => ?_
  rw [get?_unionWith, ha]
  cases t.get? k with
  | none => exact ⟨a, rfl, idem a⟩
  | some b => exact ⟨f a b, rfl, absorb a b⟩

theorem union_self (s : Table α) : s.union s = s := unionWith_self (fun _ => rfl) s

theorem union_union_left (s t : Table α) : (s.union t).union s = s.union t :=
  unionWith_unionWith_left (fun _ => rfl) (fun _ _ => rfl) s t

/-- The entries of a table under the keys of another one. -/
def restrict (t : Table α) (s : Table β) : Table α := t.filter fun k _ => s.contains k

/-- Under the keys of the left table a union is the left table, with the combined values. -/
theorem restrict_unionWith (f : α → α → α) (s t : Table α) :
    (unionWith f s t).restrict s = s.mapWithKey fun k a => ((t.get? k).map (f a)).getD a := by
  apply Table.ext
  show (_ ++ _ : List (String × α)).filter (fun e => s.contains e.1) = List.map _ _
  rw [List.filter_append, List.filter_filter]
  have hleft : ∀ e ∈ s.entries.map fun e => (e.1, ((t.get? e.1).map (f e.2)).getD e.2),
      s.contains e.1 = true := by
    intro e he
    obtain ⟨e', he', rfl⟩ := List.mem_map.1 he
    exact contains_iff_mem_keys.2 (List.mem_map.2 ⟨e', he', rfl⟩)
  have hright : (t.entries.filter fun e => s.contains e.1 && !s.contains e.1) = [] := by
    simp
  rw [List.filter_eq_self.2 hleft, hright, List.append_nil]

theorem restrict_union (s t : Table α) : (s.union t).restrict s = s := by
  rw [union, restrict_unionWith]
  apply Table.ext
  have hsame : ∀ e ∈ s.entries, (e.1, ((t.get? e.1).map fun _ => e.2).getD e.2) = e := by
    intro e _
    cases t.get? e.1 <;> rfl
  exact (List.map_congr_left hsame).trans (List.map_id' _)

end Table

/-! ## records -/

namespace OperationTypes

/-- A record together with itself. -/
theorem merge_self (r : OperationTypes) : r.merge r = r := by
  simp only [merge, Table.union_self, Option.or_self]

/-- A merged record together with the left one once more. -/
theorem merge_merge_left (r s : OperationTypes) : (r.merge s).merge r = r.merge s := by
  have hcomment : (r.comment.or s.comment).or r.comment = r.comment.or s.comment := by
    cases r.comment <;> cases s.comment <;> rfl
  simp only [merge, Table.union_union_left, hcomment]

/-- A record without the entries of chains that another one does not have in the same
column. -/
def restrict (r s : OperationTypes) : OperationTypes where
  method := r.method
  comment := r.comment
  endpoint := r.endpoint.restrict s.endpoint
  path := r.path.restrict s.path
  query := r.query.restrict s.query
  body := r.body.restrict s.body
  success := r.success.restrict s.success
  error := r.error.restrict s.error

/-- A record with a comment to take if it has none. -/
def fillComment (r : OperationTypes) (comment : Option String) : OperationTypes :=
  { r with comment := r.comment.or comment }

/-- Without what the right one adds, a merged record is the left one with its comment. -/
theorem restrict_merge (r s : OperationTypes) :
    (r.merge s).restrict r = r.fillComment s.comment := by
  simp only [restrict, merge, Table.restrict_union, fillComment]

end OperationTypes

/-! ## catalogues -/

namespace Catalogue

/-- A catalogue without the operations that another one does not have, and without the
entries that the record of that one does not have. -/
def restrict (c a : Catalogue) : Catalogue :=
  (Table.restrict c a).mapWithKey fun id r => ((a.get? id).map r.restrict).getD r

/-- A catalogue in which the operations that have no comment take that of another one. -/
def fillComments (a b : Catalogue) : Catalogue :=
  a.mapWithKey fun id r => r.fillComment ((b.get? id).bind OperationTypes.comment)

/-- Without what the right one adds, a merge is the left catalogue with its comments. -/
theorem restrict_merge (a b : Catalogue) : (merge a b).restrict a = a.fillComments b := by
  rw [restrict, merge, Table.restrict_unionWith]
  apply Table.ext_get?
  · simp only [fillComments, Table.keys_mapWithKey]
  · intro id
    simp only [fillComments, Table.get?_mapWithKey]
    cases a.get? id with
    | none => rfl
    | some r =>
      have hself : r.restrict r = r := by
        simpa [OperationTypes.merge_self, OperationTypes.fillComment] using
          OperationTypes.restrict_merge r r
      cases b.get? id with
      | none => simp [hself, OperationTypes.fillComment]
      | some s => simp [OperationTypes.restrict_merge]

/-- **Merging again is harmless.**  A catalogue merged into itself, or into a merge that it is
part of, changes nothing: not the order of the operations or of a column, nor a method, a
comment or an entry.  And of the catalogue on the left a merge keeps everything as it was,
except that an operation without a comment takes that of the other catalogue. -/
theorem merge_absorbs (a b : Catalogue) :
    merge a a = a ∧ merge (merge a b) a = merge a b ∧ merge (merge a b) b = merge a b ∧
      (merge a b).restrict a = a.fillComments b := by
  have hself : ∀ c : Catalogue, merge c c = c := Table.unionWith_self OperationTypes.merge_self
  refine ⟨hself a, ?_, ?_, restrict_merge a b⟩
  · exact Table.unionWith_unionWith_left OperationTypes.merge_self
      OperationTypes.merge_merge_left a b
  · rw [merge_assoc, hself]

end Catalogue

end ChainApi
