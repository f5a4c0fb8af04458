import ChainApi.Catalogue.Session

/-!
# ChainApi.Proofs.Stored

How stored catalogues show.  A catalogue shows what its cells hold, so that it is not
changed by anything that happens to other cells; and what is done to a stored catalogue
shows as the same thing done to the catalogue that it shows.

* `StoredCatalogue.view_congr` — a catalogue shows what its cells hold;
* `StoredCatalogue.view_ofCatalogue`, `view_merge`, `view_insert` — how a new catalogue,
  a merge and a changed record show;
* `StoredCatalogue.view_set` — a change within an endpoint shows wherever it is held;
* `StoredCatalogue.serial?_merge`, `serial?_edit` — which endpoints a merge and a change
  store, and which they leave as they are.
-/

namespace ChainApi

/-- A catalogue with the record of one operation changed. -/
def Catalogue.adjust (id : String) (f : OperationTypes → OperationTypes) (c : Catalogue) :
    Catalogue :=
  c.mapWithKey fun j r => if j = id then f r else r

/-- The endpoint that a merge has is that of the left catalogue, if it has one. -/
theorem Catalogue.endpoint?_merge (a b : Catalogue) (id chain : String) :
    (merge a b).endpoint? id chain = (a.endpoint? id chain).or (b.endpoint? id chain) := by
  simp only [endpoint?, merge, Table.get?_unionWith]
  cases a.get? id <;> cases b.get? id <;> simp [OperationTypes.merge, Table.get?_union]

/-- Does a change put a new endpoint in the place of the one for a chain? -/
def Edit.renews (chain : String) : Edit → Bool
  | endpoint c _ => chain = c
  | _ => false

namespace StoredOperation

variable {m m' : Memory} {id chain : String} {n serial : Nat} {r : StoredOperation}

/-- How a record shows depends on the cells that it holds. -/
theorem view_congr
    (h : ∀ chain n, r.serials.get? chain = some n → m' ⟨n, id, chain⟩ = m ⟨n, id, chain⟩) :
    r.view m' id = r.view m id := by
  have hserials : (r.serials.mapWithKey fun chain n => m' ⟨n, id, chain⟩) =
      r.serials.mapWithKey fun chain n => m ⟨n, id, chain⟩ := Table.mapWithKey_congr h
  simp only [view, hserials]

/-- A copy of a record shows as the record does if its cells hold the same. -/
theorem view_renew
    (h : ∀ chain n, r.serials.get? chain = some n → m' ⟨serial, id, chain⟩ = m ⟨n, id, chain⟩) :
    (r.renew serial).view m' id = r.view m id := by
  have hserials : (r.serials.mapWithKey fun chain _ => m' ⟨serial, id, chain⟩) =
      r.serials.mapWithKey fun chain n => m ⟨n, id, chain⟩ := Table.mapWithKey_congr h
  simp only [view, renew, Table.map, Table.mapWithKey_mapWithKey, hserials]

/-- A record that is stored as a whole shows as it is. -/
theorem view_ofTypes {r : OperationTypes}
    (h : ∀ chain e, r.endpoint.get? chain = some e → m ⟨serial, id, chain⟩ = e) :
    (ofTypes serial r).view m id = r := by
  have hendpoint : (r.endpoint.mapWithKey fun chain _ => m ⟨serial, id, chain⟩) = r.endpoint :=
    (Table.mapWithKey_congr h).trans r.endpoint.mapWithKey_self
  simp only [view, ofTypes, Table.map, Table.mapWithKey_mapWithKey, hendpoint]

theorem view_merge (m : Memory) (id : String) (a b : StoredOperation) :
    (a.merge b).view m id = (a.view m id).merge (b.view m id) := by
  simp only [view, merge, OperationTypes.merge, Table.mapWithKey_union]

/-- A new endpoint shows in the record. -/
theorem view_edit_endpoint (e : Endpoint)
    (fresh : ∀ chain n, r.serials.get? chain = some n → n ≠ serial) :
    (r.edit serial (.endpoint chain e)).view (m.set ⟨serial, id, chain⟩ e) id =
      (Edit.endpoint chain e).apply (r.view m id) := by
  have hserials : (r.serials.mapWithKey fun ch n => m.set ⟨serial, id, chain⟩ e ⟨n, id, ch⟩) =
      r.serials.mapWithKey fun ch n => m ⟨n, id, ch⟩ :=
    Table.mapWithKey_congr fun ch n hn => Memory.set_of_ne (by simp [fresh ch n hn]) e
  simp only [view, edit, Edit.apply, Table.mapWithKey_insert, hserials, Memory.set_self]

/-- A change within an endpoint shows in every record that holds it. -/
theorem view_set (field : EndpointField) (text : String) (hn : r.serials.get? chain = some n) :
    r.view (m.set ⟨n, id, chain⟩ (field.set text (m ⟨n, id, chain⟩))) id =
      (Edit.within chain field text).apply (r.view m id) := by
  have hserials :
      (r.serials.mapWithKey fun ch k =>
          m.set ⟨n, id, chain⟩ (field.set text (m ⟨n, id, chain⟩)) ⟨k, id, ch⟩) =
        r.serials.mapWithKey fun ch k =>
          if ch = chain then field.set text (m ⟨k, id, ch⟩) else m ⟨k, id, ch⟩ := by
    refine Table.mapWithKey_congr fun ch k hk => ?_
    split
    · next h =>
      subst h
      rw [hn] at hk
      cases hk
      rw [Memory.set_self]
    · next h => exact Memory.set_of_ne (by simp [h]) _
  simp only [view, Edit.apply, Table.mapWithKey_mapWithKey, hserials]

end StoredOperation

namespace StoredCatalogue

variable {m m' : Memory} {c a b : StoredCatalogue} {id chain : String} {n serial : Nat}
  {r : StoredOperation}

/-- The number of the command that stored the endpoint of an operation for a chain. -/
def serial? (c : StoredCatalogue) (id chain : String) : Option Nat :=
  (c.get? id).bind fun r => r.serials.get? chain

theorem serial?_of_get? (h : c.get? id = some r) : c.serial? id chain = r.serials.get? chain := by
  rw [serial?, h, Option.bind_some]

theorem get?_view (m : Memory) (c : StoredCatalogue) (id : String) :
    (c.view m).get? id = (c.get? id).map (StoredOperation.view m id) :=
  Table.get?_mapWithKey ..

/-- What a cell of a catalogue holds is what the catalogue shows. -/
theorem endpoint?_view (m : Memory) (c : StoredCatalogue) (id chain : String) :
    (c.view m).endpoint? id chain = (c.serial? id chain).map fun n => m ⟨n, id, chain⟩ := by
  rw [Catalogue.endpoint?, get?_view, serial?]
  cases c.get? id with
  | none => rfl
  | some r => exact Table.get?_mapWithKey ..

/-- How a catalogue shows depends on the cells that it holds. -/
theorem view_congr
    (h : ∀ id chain n, c.serial? id chain = some n → m' ⟨n, id, chain⟩ = m ⟨n, id, chain⟩) :
    c.view m' = c.view m :=
  Table.mapWithKey_congr fun id _ hr =>
    StoredOperation.view_congr fun chain n hn => h id chain n ((serial?_of_get? hr).trans hn)

theorem serial?_ofCatalogue (serial : Nat) (c : Catalogue) (id chain : String) :
    (ofCatalogue serial c).serial? id chain = (c.endpoint? id chain).map fun _ => serial := by
  rw [serial?, ofCatalogue, Table.map, Table.get?_mapWithKey, Catalogue.endpoint?]
  cases c.get? id with
  | none => rfl
  | some r => exact Table.get?_mapWithKey ..

/-- A catalogue that is stored as a whole shows as it is. -/
theorem view_ofCatalogue {c : Catalogue}
    (h : ∀ id chain e, c.endpoint? id chain = some e → m ⟨serial, id, chain⟩ = e) :
    (ofCatalogue serial c).view m = c := by
  rw [view, ofCatalogue, Table.map, Table.mapWithKey_mapWithKey]
  refine (Table.mapWithKey_congr fun id r hr => ?_).trans c.mapWithKey_self
  refine StoredOperation.view_ofTypes fun chain e he => h id chain e ?_
  rw [Catalogue.endpoint?, hr, Option.bind_some, he]

/-! ### merges -/

theorem get?_merge (serial : Nat) (a b : StoredCatalogue) (id : String) :
    (merge serial a b).get? id =
      match a.get? id, b.get? id with
      | some r, some r' => some ((r.renew serial).merge r')
      | some r, none => some (r.renew serial)
      | none, r' => r'.map (StoredOperation.renew serial) := by
  rw [merge, Table.get?_unionWith, Table.map, Table.get?_mapWithKey, Table.get?_mapWithKey]
  cases ha : a.get? id with
  | none =>
    have hnew : a.contains id = false := Table.contains_eq_false_iff.2 (Table.get?_eq_none_iff.1 ha)
    cases b.get? id <;> simp [hnew]
  | some r =>
    have hold : a.contains id = true := Table.contains_iff_mem_keys.2 (Table.mem_keys_of_get? ha)
    cases b.get? id <;> simp [hold]

/-- What a merge stores, and what it takes as it is: the endpoints that the right catalogue has
for an operation of both, and the left one lacks. -/
theorem serial?_merge (serial : Nat) (a b : StoredCatalogue) (id chain : String) :
    (merge serial a b).serial? id chain =
      if id ∈ a.keys then ((a.serial? id chain).map fun _ => serial).or (b.serial? id chain)
      else (b.serial? id chain).map fun _ => serial := by
  have hmap (t : Table Nat) :
      (t.map fun _ => serial).get? chain = (t.get? chain).map fun _ => serial :=
    Table.get?_mapWithKey ..
  simp only [serial?, get?_merge, ← Table.isSome_get?_iff]
  cases a.get? id <;> cases b.get? id <;>
    simp [StoredOperation.renew, StoredOperation.merge, Table.get?_union, hmap]

/-- An endpoint of a merge is stored by the merge, or was there in the right catalogue. -/
theorem eq_or_of_serial?_merge (h : (merge serial a b).serial? id chain = some n) :
    n = serial ∨ b.serial? id chain = some n := by
  rw [serial?_merge] at h
  split at h
  · cases hleft : a.serial? id chain with
    | none => exact .inr (by simpa [hleft] using h)
    | some k => exact .inl (by simpa [hleft, eq_comm] using h)
  · obtain ⟨_, -, rfl⟩ := Option.map_eq_some_iff.1 h
    exact .inl rfl

/-- A merge shows the merge of what its two catalogues show. -/
theorem view_merge
    (left : ∀ id chain n, a.serial? id chain = some n →
      m' ⟨serial, id, chain⟩ = m ⟨n, id, chain⟩)
    (new : ∀ id chain n, id ∉ a.keys → b.serial? id chain = some n →
      m' ⟨serial, id, chain⟩ = m ⟨n, id, chain⟩)
    (taken : ∀ id chain n, b.serial? id chain = some n → m' ⟨n, id, chain⟩ = m ⟨n, id, chain⟩) :
    (merge serial a b).view m' = Catalogue.merge (a.view m) (b.view m) := by
  have ha : view m' (a.map (StoredOperation.renew serial)) = a.view m := by
    rw [view, Table.map, Table.mapWithKey_mapWithKey]
    exact Table.mapWithKey_congr fun id r hr => StoredOperation.view_renew fun chain n hn =>
      left id chain n ((serial?_of_get? hr).trans hn)
  have hb : view m' (b.mapWithKey fun id r => if a.contains id then r else r.renew serial) =
      b.view m := by
    rw [view, Table.mapWithKey_mapWithKey]
    refine Table.mapWithKey_congr fun id r hr => ?_
    split
    · exact StoredOperation.view_congr fun chain n hn =>
        taken id chain n ((serial?_of_get? hr).trans hn)
    · next hnew =>
      exact StoredOperation.view_renew fun chain n hn =>
        new id chain n (by simpa using hnew) ((serial?_of_get? hr).trans hn)
  rw [← ha, ← hb]
  exact Table.mapWithKey_unionWith (StoredOperation.view_merge m') _ _

/-! ### changes of one record -/

/-- Where one record is replaced, the catalogue shows the change of that record. -/
theorem view_insert {r' : StoredOperation} {f : OperationTypes → OperationTypes}
    (hr : c.get? id = some r) (changed : r'.view m' id = f (r.view m id))
    (rest : ∀ j x, j ≠ id → c.get? j = some x → x.view m' j = x.view m j) :
    view m' (c.insert id r') = (c.view m).adjust id f := by
  apply Table.ext_get?
  · simp only [view, Catalogue.adjust, Table.keys_mapWithKey, Table.keys_insert,
      if_pos (Table.mem_keys_of_get? hr)]
  · intro j
    rw [get?_view, Table.get?_insert, Catalogue.adjust, Table.get?_mapWithKey, get?_view]
    by_cases hj : j = id
    · subst hj
      simp only [if_pos, hr, Option.map_some, changed]
    · simp only [if_neg hj]
      cases hx : c.get? j with
      | none => rfl
      | some x => simp only [Option.map_some, rest j x hj hx]

/-- A change within an endpoint shows in every catalogue that holds it. -/
theorem view_set (field : EndpointField) (text : String) (hn : c.serial? id chain = some n) :
    c.view (m.set ⟨n, id, chain⟩ (field.set text (m ⟨n, id, chain⟩))) =
      (c.view m).adjust id (Edit.within chain field text).apply := by
  rw [Catalogue.adjust, view, view, Table.mapWithKey_mapWithKey]
  refine Table.mapWithKey_congr fun j r hr => ?_
  split
  · next h =>
    subst h
    exact StoredOperation.view_set field text ((serial?_of_get? hr).symm.trans hn)
  · next h => exact StoredOperation.view_congr fun ch k _ => Memory.set_of_ne (by simp [h]) _

/-- Only an endpoint that a change puts in place is stored by it. -/
theorem serial?_edit (hr : c.get? id = some r) (serial : Nat) (change : Edit) (i chain : String) :
    serial? (c.insert id (r.edit serial change)) i chain =
      if i = id ∧ change.renews chain then some serial else c.serial? i chain := by
  rw [serial?, Table.get?_insert]
  by_cases hi : i = id
  · subst hi
    rw [if_pos rfl, Option.bind_some, serial?_of_get? hr]
    cases change with
    | endpoint ch e =>
      simp only [StoredOperation.edit, Edit.renews, Table.get?_insert, true_and, decide_eq_true_eq]
    | type column => cases column <;> simp [StoredOperation.edit, Edit.renews]
    | method | comment | within => simp [StoredOperation.edit, Edit.renews]
  · simp only [hi, false_and, if_false, serial?]

end StoredCatalogue

end ChainApi
