import ChainApi.Proofs.Yaml.Building

/-!
# ChainApi.Proofs.Yaml.Weaving

The value that is woven from what is noted of the nodes of plain data is the one that the
root of the graph denotes, and it has no knots.

* `Weave.Clear` — what is known of nodes while values are built: only nodes around the
  place are underway, and the values are right;
* `Weave.visits_visit` — the value of a node, and what is known after it;
* `Graph.toData_eq` — the data of a graph of plain data.
-/

namespace ChainApi.Yaml

open Build

variable {nodes : Nodes} {data : Array (Option Datum)} {n : Nat} {v : Value}

/-! ## values of nodes -/

open Classical in
/-- The value that a node denotes, if it denotes any. -/
noncomputable def valueOf (nodes : Nodes) (n : Nat) : Value :=
  if h : ∃ v, Denotes nodes n v then h.choose else .null

theorem Denotes.valueOf_eq (h : Denotes nodes n v) : valueOf nodes n = v := by
  have hex : ∃ v, Denotes nodes n v := ⟨v, h⟩
  rw [valueOf, dif_pos hex]
  exact hex.choose_spec.unique h

theorem DenotesItems.eq_map {items : List Nat} {vs : List Value}
    (h : DenotesItems nodes n items vs) : vs = items.map (valueOf nodes) := by
  induction items generalizing vs with
  | nil =>
    cases h
    rfl
  | cons m items ih =>
    cases h with
    | cons _ item rest => rw [List.map_cons, item.valueOf_eq, ← ih rest]

theorem DenotesMembers.eq_map {es : List (Nat × Nat)} {ms : List (String × Value)}
    (h : DenotesMembers nodes n es ms) :
    ms = es.map fun e => (nodeText nodes e.1, valueOf nodes e.2) := by
  induction es generalizing ms with
  | nil =>
    cases h
    rfl
  | cons e es ih =>
    cases h with
    | cons key _ _ value rest => rw [List.map_cons, value.valueOf_eq, ← ih rest, nodeText, key]

/-- The entry of a mapping, with the value that its node denotes. -/
noncomputable def entryValue (nodes : Nodes) (e : Key × Nat) : Value × Value :=
  (e.1.value, valueOf nodes e.2)

/-- Writing an entry by its node is writing it by its value. -/
theorem map_write {es : List (Key × Nat)} (hes : ∀ e ∈ es, e.1.number = 0) (k : Value) (m : Nat) :
    (write es ⟨k, 0⟩ m).map (entryValue nodes) =
      Value.writeEntry (es.map (entryValue nodes)) k (valueOf nodes m) := by
  have hsame : ∀ e ∈ es, e.1.same ⟨k, 0⟩ = (entryValue nodes e).1.sameKey k := by
    intro e he
    simp [Key.same, entryValue, hes e he]
  have hany : (es.any fun e => e.1.same ⟨k, 0⟩) =
      (es.map (entryValue nodes)).any fun e => e.1.sameKey k := by
    rw [List.any_map, Bool.eq_iff_iff, List.any_eq_true, List.any_eq_true]
    refine exists_congr fun e => and_congr_right fun he => ?_
    rw [hsame e he, Function.comp_apply]
  rw [write, Value.writeEntry, hany]
  split
  · rw [List.map_map, List.map_map]
    refine List.map_congr_left fun e he => ?_
    simp only [Function.comp_apply, hsame e he]
    split <;> rfl
  · rw [List.map_append]
    rfl

theorem number_write {es : List (Key × Nat)} (hes : ∀ e ∈ es, e.1.number = 0) (k : Value)
    (m : Nat) : ∀ e ∈ write es ⟨k, 0⟩ m, e.1.number = 0 := by
  intro e he
  rw [write] at he
  split at he
  · obtain ⟨e', he', rfl⟩ := List.mem_map.1 he
    split <;> exact hes e' he'
  · rcases List.mem_append.1 he with he | he
    · exact hes e he
    · rw [List.mem_singleton.1 he]

/-- Entries that are written by their nodes are written by their values. -/
theorem map_writeAll (es : List (Nat × Nat)) :
    (writeAll (keyed nodes es)).map (entryValue nodes) =
      Value.writeMembers [] (es.map fun e => (nodeText nodes e.1, valueOf nodes e.2)) := by
  have hfold : ∀ (es : List (Nat × Nat)) (written : List (Key × Nat)),
      (∀ e ∈ written, e.1.number = 0) →
        ((keyed nodes es).foldl (fun es e => write es e.1 e.2) written).map (entryValue nodes) =
          Value.writeMembers (written.map (entryValue nodes))
            (es.map fun e => (nodeText nodes e.1, valueOf nodes e.2)) := by
    intro es
    induction es with
    | nil => exact fun _ _ => rfl
    | cons e es ih =>
      intro written hwritten
      have hrest := ih _ (number_write hwritten (.str (nodeText nodes e.1)) e.2)
      rw [map_write hwritten] at hrest
      exact hrest
  exact hfold es [] (by simp)

theorem mem_write {es : List (Key × Nat)} {k : Key} {m : Nat} {e : Key × Nat}
    (h : e ∈ write es k m) : (∃ e' ∈ es, e.2 = e'.2) ∨ e.2 = m := by
  rw [write] at h
  split at h
  · obtain ⟨e', he', rfl⟩ := List.mem_map.1 h
    split
    · exact .inr rfl
    · exact .inl ⟨e', he', rfl⟩
  · rcases List.mem_append.1 h with h | h
    · exact .inl ⟨e, h, rfl⟩
    · rw [List.mem_singleton.1 h]
      exact .inr rfl

/-- Whatever is left in a mapping was written into it. -/
theorem mem_writeAll {es : List (Nat × Nat)} {e : Key × Nat}
    (h : e ∈ writeAll (keyed nodes es)) : ∃ e' ∈ es, e.2 = e'.2 := by
  have hfold : ∀ (es : List (Nat × Nat)) (written : List (Key × Nat)),
      e ∈ (keyed nodes es).foldl (fun es e => write es e.1 e.2) written →
        (∃ e' ∈ written, e.2 = e'.2) ∨ ∃ e' ∈ es, e.2 = e'.2 := by
    intro es
    induction es with
    | nil => exact fun _ h => .inl ⟨e, h, rfl⟩
    | cons e₁ es ih =>
      intro written h
      rcases ih _ h with ⟨e', he', heq⟩ | ⟨e', he', heq⟩
      · rcases mem_write he' with ⟨e'', he'', heq'⟩ | heq'
        · exact .inl ⟨e'', he'', heq.trans heq'⟩
        · exact .inr ⟨e₁, List.mem_cons_self, heq.trans heq'⟩
      · exact .inr ⟨e', List.mem_cons_of_mem _ he', heq⟩
  exact (hfold es [] h).resolve_left (by simp)

/-! ## visiting nodes -/

namespace Weave

theorem isTied_of_hasKnot (h : v.hasKnot = false) : isTied v = false := by
  cases v with
  | list vs =>
    have hvs := Value.hasKnotItem_eq_false.1 h
    refine List.any_eq_false.2 fun w hw => ?_
    have hknot := hvs w hw
    cases w with
    | knot m => cases hknot
    | list ws =>
      have hws := Value.hasKnotItem_eq_false.1 hknot
      refine Bool.not_eq_true _ ▸ List.any_eq_false.2 fun u hu => ?_
      have hknot := hws u hu
      cases u with
      | knot m => cases hknot
      | _ => exact Bool.false_ne_true
    | _ => exact Bool.false_ne_true
  | map es =>
    have hes := Value.hasKnotEntry_eq_false.1 h
    refine List.any_eq_false.2 fun e he => ?_
    have hknot := (hes e he).2
    cases hv : e.2 with
    | knot m => rw [hv] at hknot; cases hknot
    | _ => exact Bool.false_ne_true
  | _ => rfl

/-- What is known of nodes while values are built: only nodes that `P` allows are
underway, and all values are right. -/
structure Clear (nodes : Nodes) (P : Nat → Prop) (seen : Array (Option Seen)) : Prop where
  size_eq : seen.size = nodes.size
  known : ∀ n s, seen[n]?.join = some s →
    (s = .underway ∧ P n) ∨ ∃ v, s = .value v ∧ Denotes nodes n v

/-- A step that gives a value and leaves no other node underway. -/
def Visits (nodes : Nodes) (P : Nat → Prop) (x : Weaving α) (a : α) : Prop :=
  ∀ seen, Clear nodes P seen → ∃ seen', x.run seen = (a, seen') ∧ Clear nodes P seen'

section Visits

variable {P : Nat → Prop} {seen : Array (Option Seen)}

theorem Visits.pure (a : α) : Visits nodes P (pure a) a := fun seen h => ⟨seen, rfl, h⟩

theorem Visits.bind {x : Weaving α} {f : α → Weaving β} {a : α} {b : β}
    (hx : Visits nodes P x a) (hf : Visits nodes P (f a) b) : Visits nodes P (x >>= f) b := by
  intro seen hseen
  obtain ⟨seen₁, hrun, hclear⟩ := hx seen hseen
  obtain ⟨seen₂, hrun', hclear'⟩ := hf seen₁ hclear
  refine ⟨seen₂, ?_, hclear'⟩
  rw [StateT.run_bind, hrun]
  exact hrun'

theorem Visits.map {x : Weaving α} {a : α} (hx : Visits nodes P x a) (f : α → β) :
    Visits nodes P (f <$> x) (f a) := by
  rw [map_eq_pure_bind]
  exact hx.bind (.pure _)

theorem Visits.mapM {ι : Type} {f : ι → Weaving α} {g : ι → α} {l : List ι}
    (h : ∀ i ∈ l, Visits nodes P (f i) (g i)) : Visits nodes P (l.mapM f) (l.map g) := by
  induction l with
  | nil => exact .pure []
  | cons i l ih =>
    rw [List.mapM_cons]
    exact (h i List.mem_cons_self).bind
      ((ih fun j hj => h j (List.mem_cons_of_mem _ hj)).bind (.pure _))

/-- A node that one comes back from has its value. -/
theorem Clear.leave (h : Clear nodes (fun m => P m ∨ m = n) seen) (hn : Denotes nodes n v) :
    Clear nodes P (seen.setIfInBounds n (some (.value v))) := by
  have hlt : n < seen.size := by
    rw [h.size_eq]
    exact hn.lt
  refine ⟨by simp [h.size_eq], fun m s hs => ?_⟩
  rw [join_set hlt] at hs
  split at hs
  · next heq =>
    cases hs
    subst heq
    exact .inr ⟨v, rfl, hn⟩
  · next hne =>
    exact (h.known m s hs).imp_left fun hunderway =>
      ⟨hunderway.1, hunderway.2.resolve_right (Ne.symm hne)⟩

/-- A node that one starts with is underway. -/
theorem Clear.enter (h : Clear nodes P seen) (hn : Denotes nodes n v) :
    Clear nodes (fun m => P m ∨ m = n) (seen.setIfInBounds n (some .underway)) := by
  have hlt : n < seen.size := by
    rw [h.size_eq]
    exact hn.lt
  refine ⟨by simp [h.size_eq], fun m s hs => ?_⟩
  rw [join_set hlt] at hs
  split at hs
  · next heq =>
    cases hs
    exact .inl ⟨rfl, .inr heq.symm⟩
  · exact (h.known m s hs).imp_left fun hunderway => ⟨hunderway.1, .inl hunderway.2⟩

/-- Coming back from a node: its value, which is no knot, is kept. -/
theorem Visits.leave {x : Weaving Value} (hx : Visits nodes (fun m => P m ∨ m = n) x v)
    (hn : Denotes nodes n v) (hseen : Clear nodes P seen) :
    ∃ seen', (x >>= fun v =>
        if isTied v then do
          modify fun seen => seen.setIfInBounds n (some (.knot v))
          return .knot n
        else do
          modify fun seen => seen.setIfInBounds n (some (.value v))
          return v).run (seen.setIfInBounds n (some .underway)) = (v, seen') ∧
      Clear nodes P seen' := by
  obtain ⟨seen', hrun, hclear⟩ := hx _ (hseen.enter hn)
  refine ⟨_, ?_, hclear.leave hn⟩
  rw [StateT.run_bind, hrun]
  show (if isTied v then _ else _ : Weaving Value).run seen' = _
  rw [isTied_of_hasKnot hn.hasKnot]
  rfl

end Visits

section Parts

variable {P : Nat → Prop} {f : Nat → Weaving Value}

/-- The items of a list. -/
theorem visits_items {items : List Nat} {vs : List Value} (parts : DenotesItems nodes n items vs)
    (hpart : ∀ m ∈ items, n < m → ∀ w, Denotes nodes m w → Visits nodes P (f m) w) :
    Visits nodes P (items.mapM f) vs := by
  rw [parts.eq_map]
  refine .mapM fun m hm => ?_
  obtain ⟨hlater, w, hw⟩ := parts.exists_denotes m hm
  rw [hw.valueOf_eq]
  exact hpart m hm hlater w hw

/-- The entries of a mapping. -/
theorem visits_entries {es : List (Nat × Nat)} {ms : List (String × Value)}
    (parts : DenotesMembers nodes n es ms)
    (hpart : ∀ e ∈ es, n < e.2 → ∀ w, Denotes nodes e.2 w → Visits nodes P (f e.2) w) :
    Visits nodes P ((writeAll (keyed nodes es)).mapM fun e => do
      let v ← f e.2
      return (e.1.value, v)) (Value.writeMembers [] ms) := by
  rw [parts.eq_map, ← map_writeAll]
  refine .mapM fun e he => ?_
  obtain ⟨e', he', heq⟩ := mem_writeAll he
  obtain ⟨hlater, w, hw⟩ := parts.exists_denotes e' he'
  rw [entryValue, heq, hw.valueOf_eq]
  exact (hpart e' he' hlater w hw).bind (.pure _)

end Parts

/-- The value of a node is the one that it denotes. -/
theorem visits_visit (hnoted : ∀ n d, data[n]?.join = some d → Noted nodes data n d)
    (fuel : Nat) {P : Nat → Prop} (hfuel : nodes.size < fuel + n) (hP : ∀ m, P m → m < n)
    (hn : Denotes nodes n v) (hmet : met data n) : Visits nodes P (visit data fuel n) v := by
  induction fuel generalizing n v P with
  | zero => exact absurd hn.lt (by omega)
  | succ fuel ih =>
    have hpart (m : Nat) (hmet : met data m) (hlater : n < m) (w : Value)
        (hm : Denotes nodes m w) :
        Visits nodes (fun m => P m ∨ m = n) (visit data fuel m) w := by
      refine ih (by omega) (fun k hk => ?_) hm hmet
      rcases hk with hk | rfl
      · exact Nat.lt_trans (hP k hk) hlater
      · exact hlater
    obtain ⟨d, hd⟩ := Option.isSome_iff_exists.1 hmet
    intro seen hclear
    rw [visit, StateT.run_bind, StateT.run_get]
    cases hs : seen[n]?.join with
    | some s =>
      rcases hclear.known n s hs with ⟨-, hunderway⟩ | ⟨w, rfl, hw⟩
      · exact absurd (hP n hunderway) (Nat.lt_irrefl n)
      · refine ⟨seen, ?_, hclear⟩
        simp only [pure_bind, hs, hw.unique hn]
        rfl
    | none =>
      simp only [pure_bind, hs]
      rw [StateT.run_bind, StateT.run_modify, pure_bind]
      simp only [hd]
      cases hn with
      | scalar node plain reads =>
        cases (hnoted n d hd).of_scalar node reads
        exact (Visits.pure v).leave (.scalar node plain reads) hclear
      | list node parts =>
        obtain ⟨rfl, hmets⟩ := (hnoted n d hd).of_list node
        have hitems := visits_items parts fun m hm => hpart m (hmets m hm)
        exact (hitems.map Value.list).leave (.list node parts) hclear
      | map node parts =>
        obtain ⟨rfl, hmets⟩ := (hnoted n d hd).of_map node
        have hentries := visits_entries parts fun e he => hpart e.2 (hmets e he)
        exact (hentries.map Value.map).leave (.map node parts) hclear

theorem knotsFrom_eq_nil {n : Nat} {seen : List (Option Seen)}
    (h : ∀ s ∈ seen, ∀ v, s ≠ some (.knot v)) : knotsFrom n seen = [] := by
  induction seen generalizing n with
  | nil => rfl
  | cons s seen ih =>
    have hrest := ih (n := n + 1) fun s hs => h s (List.mem_cons_of_mem _ hs)
    cases s with
    | none => exact hrest
    | some s =>
      cases s with
      | knot v => exact absurd rfl (h _ List.mem_cons_self v)
      | underway | value => exact hrest

end Weave

/-- The data of a graph of plain data is the value that its root denotes. -/
theorem Graph.toData_eq {g : Graph} (h : Denotes g.nodes g.root v) : g.toData = .ok ⟨v, []⟩ := by
  obtain ⟨data, hbuild, hsize, hmet, hnoted⟩ := ofGraph_noted h
  have hstart : Weave.Clear g.nodes (fun _ => False) (.replicate data.size none) := by
    refine ⟨by simp [hsize], fun n s hs => ?_⟩
    rw [Array.getElem?_replicate] at hs
    split at hs <;> cases hs
  obtain ⟨seen, hrun, hclear⟩ := Weave.visits_visit hnoted (data.size + 1)
    (by rw [hsize]; omega) (fun _ h => h.elim) h hmet _ hstart
  have hknots : Weave.knotsFrom 0 seen.toList = [] := by
    refine Weave.knotsFrom_eq_nil fun s hs w hknot => ?_
    obtain ⟨n, hn⟩ := List.getElem?_of_mem hs
    rw [Array.getElem?_toList, hknot] at hn
    rcases hclear.known n (.knot w) (by rw [hn]; rfl) with ⟨h, -⟩ | ⟨_, h, -⟩ <;> cases h
  rw [toData, hbuild]
  simp only [bind, Except.bind, hrun, hknots, Knots.expose_nil h.hasKnot]
  rfl

end ChainApi.Yaml
