import ChainApi.Proofs.Yaml.Causes

/-!
# ChainApi.Proofs.Yaml.Merging

Merging always comes to an end.  A merge key is taken out of its mapping before what it
stands for is merged, and what is merged holds no merge keys any more, so that there are
fewer of them with every merge, also where mappings merge each other or themselves.

* `Build.Merging` — what holds while mappings are merged;
* `Build.flatten_triple` — a mapping in which nothing is left to merge;
* `Build.flatten_ne_endless` — the bound on the number of merges is never met.
-/

namespace ChainApi.Yaml.Build

/-! ## merge keys -/

/-- The entries of a node, if it is a mapping. -/
def entriesAt (nodes : Nodes) (n : Nat) : Option (List (Nat × Nat)) :=
  match (nodes[n]?.getD .blank).content with
  | .mapping es => some es
  | _ => none

/-- Does a node ask for a merge where it is a key? -/
def asks (nodes : Nodes) (n : Nat) : Bool := (nodes[n]?.getD .blank).tag == .merge

/-- How many merges a node asks for, given which nodes do so where they are keys. -/
def mergesOf (asks : Nat → Bool) (node : Node) : Nat :=
  match node.content with
  | .mapping es => es.countP fun e => asks e.1
  | _ => 0

/-- How many merges there are. -/
def merges (asks : Nat → Bool) : List Node → Nat
  | [] => 0
  | node :: nodes => mergesOf asks node + merges asks nodes

/-- What a change of one node changes. -/
theorem merges_modify (asks : Nat → Bool) {l : List Node} {n : Nat} {node : Node}
    (f : Node → Node) (h : l[n]? = some node) :
    merges asks (l.modify n f) + mergesOf asks node = merges asks l + mergesOf asks (f node) := by
  induction l generalizing n with
  | nil => cases h
  | cons first l ih =>
    cases n with
    | zero =>
      obtain rfl : first = node := Option.some.inj h
      simp only [List.modify_zero_cons, merges]
      omega
    | succ n =>
      have hl := ih h
      simp only [List.modify_succ_cons, merges]
      omega

/-- Properties of nodes that merging cannot change. -/
structure Stable (P : Node → Prop) : Prop where
  entries {tag : Tag} {es : List (Nat × Nat)} (es' : List (Nat × Nat)) :
    P ⟨tag, .mapping es⟩ → P ⟨tag, .mapping es'⟩
  unmark {content : Content} : P ⟨.value, content⟩ → P ⟨.str, content⟩

/-- What holds while mappings are merged: which nodes are mappings and which are merge keys
stays as it was at the start, and at most `left` merges are left to do. -/
structure Merging (P : Node → Prop) (start : Nodes) (bound left : Nat) (b : Build) : Prop where
  all : ∀ (n : Nat) (node : Node), b.nodes[n]? = some node → P node
  isSome_eq : ∀ n, (entriesAt b.nodes n).isSome = (entriesAt start n).isSome
  asks_eq : ∀ n, asks b.nodes n = asks start n
  few : merges (asks start) b.nodes.toList ≤ left
  bound_eq : b.bound = bound

/-- A mapping asks for no merge. -/
def Flat (start : Nodes) (n : Nat) (b : Build) : Prop :=
  ∀ e ∈ (entriesAt b.nodes n).getD [], asks start e.1 = false

variable {P : Node → Prop} {start nodes : Nodes} {bound left left' n : Nat} {b : Build} {tag : Tag}
  {content : Content} {es es' : List (Nat × Nat)} {E : Fault → Prop}

theorem Merging.mono (h : Merging P start bound left' b) (hle : left' ≤ left) :
    Merging P start bound left b :=
  ⟨h.all, h.isSome_eq, h.asks_eq, Nat.le_trans h.few hle, h.bound_eq⟩

/-! ## entries -/

theorem exists_of_entriesAt (h : entriesAt nodes n = some es) :
    ∃ tag, nodes[n]? = some ⟨tag, .mapping es⟩ := by
  rw [entriesAt] at h
  cases hnode : nodes[n]? with
  | none =>
    rw [hnode] at h
    cases h
  | some node =>
    obtain ⟨tag, content⟩ := node
    rw [hnode, Option.getD_some] at h
    split at h
    · next heq =>
      cases h
      cases heq
      exact ⟨tag, rfl⟩
    · cases h

/-- What a node is given other entries for. -/
def withEntries (nodes : Nodes) (n : Nat) (es : List (Nat × Nat)) : Nodes :=
  nodes.modify n fun node => { node with content := .mapping es }

theorem getElem?_withEntries (h : nodes[n]? = some ⟨tag, content⟩) (m : Nat) :
    (withEntries nodes n es)[m]? = if n = m then some ⟨tag, .mapping es⟩ else nodes[m]? := by
  rw [withEntries, Array.getElem?_modify]
  split
  · next heq =>
    rw [← heq, h]
    rfl
  · rfl

theorem entriesAt_withEntries (h : nodes[n]? = some ⟨tag, content⟩) (m : Nat) :
    entriesAt (withEntries nodes n es) m = if n = m then some es else entriesAt nodes m := by
  rw [entriesAt, getElem?_withEntries h]
  by_cases hm : n = m
  · rw [if_pos hm, if_pos hm]
    rfl
  · rw [if_neg hm, if_neg hm, entriesAt]

theorem asks_withEntries (h : nodes[n]? = some ⟨tag, content⟩) (m : Nat) :
    asks (withEntries nodes n es) m = asks nodes m := by
  rw [asks, getElem?_withEntries h]
  split
  · next heq =>
    rw [asks, ← heq, h]
    rfl
  · rfl

theorem merges_withEntries (asks : Nat → Bool) (h : nodes[n]? = some ⟨tag, .mapping es⟩)
    (es' : List (Nat × Nat)) :
    merges asks (withEntries nodes n es').toList + es.countP (fun e => asks e.1) =
      merges asks nodes.toList + es'.countP fun e => asks e.1 := by
  rw [withEntries, Array.toList_modify]
  exact merges_modify asks _ (by rwa [Array.getElem?_toList])

/-- A mapping may be given other entries. -/
theorem Merging.withEntries (h : Merging P start bound left b) (hP : Stable P)
    (hes : entriesAt b.nodes n = some es)
    (hfew : merges (asks start) (withEntries b.nodes n es').toList ≤ left') :
    Merging P start bound left' { b with nodes := Build.withEntries b.nodes n es' } := by
  obtain ⟨tag, hnode⟩ := exists_of_entriesAt hes
  refine ⟨fun m node hm => ?_, fun m => ?_, fun m => ?_, hfew, h.bound_eq⟩
  · rw [getElem?_withEntries hnode] at hm
    split at hm
    · cases hm
      exact hP.entries es' (h.all n _ hnode)
    · exact h.all m node hm
  · rw [entriesAt_withEntries hnode, ← h.isSome_eq m]
    split
    · next heq => rw [← heq, hes]; rfl
    · rfl
  · rw [asks_withEntries hnode, h.asks_eq]

/-! ## steps of merging -/

theorem run_entries?_eq : (entries? n).run b = .ok (entriesAt b.nodes n, b) := by
  show ((match (b.nodes[n]?.getD .blank).content with
    | .mapping es => pure (some es)
    | _ => pure none : Building _)).run b = _
  rw [entriesAt]
  split <;> rfl

theorem entries?_bind {I : Build → Prop} {K : β → Build → Prop}
    {f : Option (List (Nat × Nat)) → Building β}
    (h : ∀ b, I b → Triple I E K (f (entriesAt b.nodes n))) :
    Triple I E K (entries? n >>= f) := by
  intro b hb
  rw [run_bind_of_ok run_entries?_eq]
  exact h b hb b hb

theorem run_takeMerge_eq : (takeMerge n).run b =
    match entriesAt b.nodes n with
    | some es =>
      match es.find? fun e => asks b.nodes e.1 with
      | some e => .ok (some e.2,
        { b with nodes := withEntries b.nodes n (es.eraseP fun e => asks b.nodes e.1) })
      | none => .ok (none, b)
    | none => .ok (none, b) := by
  rw [takeMerge, run_bind_of_ok (StateT.run_get b), run_bind_of_ok run_entries?_eq]
  cases entriesAt b.nodes n with
  | none => rfl
  | some es =>
    show ((match es.find? fun e => asks b.nodes e.1 with
      | some e => _
      | none => _ : Building _)).run b = _
    dsimp only
    split <;> rfl

theorem countP_eraseP {p : α → Bool} {l : List α} {a : α} (h : l.find? p = some a) :
    l.countP p = (l.eraseP p).countP p + 1 := by
  obtain ⟨b, front, back, -, hb, hl, herase⟩ :=
    List.exists_of_eraseP (List.mem_of_find?_eq_some h) (List.find?_some h)
  rw [herase, hl, List.countP_append, List.countP_append, List.countP_cons_of_pos hb]
  omega

/-- An entry that asks for a merge is taken out, so that there is one merge less. -/
theorem takeMerge_triple (hP : Stable P) : Triple (Merging P start bound left) E
    (fun value? b =>
      match value? with
      | none => Merging P start bound left b ∧ Flat start n b
      | some _ => ((entriesAt start n).isSome ∧ 0 < left) ∧ Merging P start bound (left - 1) b)
    (takeMerge n) := by
  intro b hb
  have hasks : asks b.nodes = asks start := funext hb.asks_eq
  rw [run_takeMerge_eq, hasks]
  cases hes : entriesAt b.nodes n with
  | none =>
    refine ⟨fun value? b' hrun => ?_, nofun⟩
    cases hrun
    refine ⟨hb, fun e he => ?_⟩
    rw [hes] at he
    cases he
  | some es =>
    dsimp only
    cases hfind : es.find? fun e => asks start e.1 with
    | none =>
      refine ⟨fun value? b' hrun => ?_, nofun⟩
      cases hrun
      refine ⟨hb, fun e he => ?_⟩
      rw [hes] at he
      simpa using List.find?_eq_none.1 hfind e he
    | some e =>
      refine ⟨fun value? b' hrun => ?_, nofun⟩
      cases hrun
      obtain ⟨tag, hnode⟩ := exists_of_entriesAt hes
      have hcount := countP_eraseP hfind
      have hmerges := merges_withEntries (asks start) hnode (es.eraseP fun e => asks start e.1)
      have hfew := hb.few
      refine ⟨⟨?_, by omega⟩, hb.withEntries hP hes (by omega)⟩
      rw [← hb.isSome_eq, hes]
      rfl

/-- A mapping is given entries that ask for no merge. -/
theorem setEntries_triple (hP : Stable P) (hn : (entriesAt start n).isSome)
    (hes : ∀ e ∈ es, asks start e.1 = false) : Triple (Merging P start bound left) E
    (fun _ b => Merging P start bound left b ∧ Flat start n b) (setEntries n es) := by
  refine .modify fun b hb => ?_
  obtain ⟨es₀, hes₀⟩ := Option.isSome_iff_exists.1 ((hb.isSome_eq n).trans hn)
  obtain ⟨tag, hnode⟩ := exists_of_entriesAt hes₀
  have hnone : es.countP (fun e => asks start e.1) = 0 :=
    List.countP_eq_zero.2 fun e he => by simp [hes e he]
  have hmerges := merges_withEntries (asks start) hnode es
  have hfew := hb.few
  refine ⟨hb.withEntries hP hes₀ (by omega), fun e he => hes e ?_⟩
  rw [show entriesAt (b.nodes.modify n fun node => { node with content := .mapping es }) n = _ from
    entriesAt_withEntries hnode n, if_pos rfl] at he
  exact he

/-! ## marks of default values -/

/-- The mark of a default value becomes an ordinary key. -/
def unmarked (node : Node) : Node := if node.tag == .value then { node with tag := .str } else node

@[simp] theorem content_unmarked (node : Node) : (unmarked node).content = node.content := by
  rw [unmarked]
  split <;> rfl

theorem tag_unmarked (node : Node) : ((unmarked node).tag == .merge) = (node.tag == .merge) := by
  rw [unmarked]
  split
  · next h => rw [eq_of_beq h]; rfl
  · rfl

theorem Stable.unmarked {node : Node} (hP : Stable P) (h : P node) : P (unmarked node) := by
  obtain ⟨tag, content⟩ := node
  rw [Build.unmarked]
  split
  · next hvalue =>
    obtain rfl : tag = .value := eq_of_beq hvalue
    exact hP.unmark h
  · exact h

theorem entriesAt_unmarked (nodes : Nodes) (k m : Nat) :
    entriesAt (nodes.modify k unmarked) m = entriesAt nodes m := by
  rw [entriesAt, entriesAt, Array.getElem?_modify]
  by_cases hm : k = m
  · rw [if_pos hm]
    cases nodes[m]? with
    | none => rfl
    | some node => rw [Option.map_some, Option.getD_some, Option.getD_some, content_unmarked]
  · rw [if_neg hm]

theorem asks_unmarked (nodes : Nodes) (k m : Nat) :
    asks (nodes.modify k unmarked) m = asks nodes m := by
  rw [asks, asks, Array.getElem?_modify]
  split
  · cases nodes[m]? with
    | none => rfl
    | some node => exact tag_unmarked node
  · rfl

theorem merges_unmarked (asks : Nat → Bool) (nodes : Nodes) (k : Nat) :
    merges asks (nodes.modify k unmarked).toList = merges asks nodes.toList := by
  rw [Array.toList_modify]
  cases hk : nodes.toList[k]? with
  | none => rw [List.modify_eq_self (List.getElem?_eq_none_iff.1 hk)]
  | some node =>
    have hsum := merges_modify asks unmarked hk
    have hsame : mergesOf asks (unmarked node) = mergesOf asks node := by
      rw [mergesOf, mergesOf, content_unmarked]
    omega

/-- Unmarking is no merge. -/
theorem Merging.unmark (h : Merging P start bound left b) (hP : Stable P) (k : Nat) :
    Merging P start bound left { b with nodes := b.nodes.modify k unmarked } := by
  refine ⟨fun m node hm => ?_, fun m => ?_, fun m => ?_, ?_, h.bound_eq⟩
  · rw [Array.getElem?_modify] at hm
    split at hm
    · obtain ⟨node', hnode', rfl⟩ := Option.map_eq_some_iff.1 hm
      exact hP.unmarked (h.all m node' hnode')
    · exact h.all m node hm
  · rw [entriesAt_unmarked, h.isSome_eq]
  · rw [asks_unmarked, h.asks_eq]
  · rw [merges_unmarked]
    exact h.few

theorem unmark_triple (hP : Stable P) :
    Triple (fun b => Merging P start bound left b ∧ Flat start n b) E
      (fun _ b => Merging P start bound left b ∧ Flat start n b) (unmark n) := by
  refine entries?_bind fun b _ => ?_
  induction (entriesAt b.nodes n).getD [] with
  | nil => exact .pure fun _ hb => hb
  | cons e es ih =>
    simp only [List.forIn_cons, bind_assoc, pure_bind]
    refine .bind (J := fun _ b => Merging P start bound left b ∧ Flat start n b)
      (.modify fun b hb => ?_) fun _ => ih
    refine ⟨hb.1.unmark hP e.1, fun e' he' => hb.2 e' ?_⟩
    rwa [← entriesAt_unmarked b.nodes e.1 n]

/-! ## runs -/

variable {fuel : Nat}

mutual

/-- A mapping is flattened with four steps for each merge that is left. -/
theorem flatten_triple {left : Nat} (hP : Stable P) (fuel n : Nat) (hfuel : 4 * left + 2 ≤ fuel) :
    Triple (Merging P start bound left) (· = .malformed)
      (fun _ b => Merging P start bound left b ∧ Flat start n b) (flatten fuel n) := by
  match fuel with
  | 0 => omega
  | fuel + 1 =>
    rw [flatten.eq_def]
    refine (collect_triple hP fuel n (by omega)).bind fun merged => ?_
    refine .assume (fun _ hb => hb.1) fun hmerged => ?_
    refine ((unmark_triple hP).pre fun _ hb => hb.2).bind fun _ => ?_
    refine .ite (fun hsome => ?_) fun _ => .pure fun _ hb => hb
    refine entries?_bind fun b hb => (setEntries_triple hP ?_ ?_).pre fun _ hb => hb.1
    · exact hmerged.2 (by simpa using hsome)
    · exact fun e he => (List.mem_append.1 he).elim (hmerged.1 e) (hb.2 e)
termination_by structural fuel

theorem collect_triple {left : Nat} (hP : Stable P) (fuel n : Nat)
    (hfuel : 4 * left + 1 ≤ fuel) :
    Triple (Merging P start bound left) (· = .malformed)
      (fun es b => ((∀ e ∈ es, asks start e.1 = false) ∧
        (es ≠ [] → (entriesAt start n).isSome)) ∧ Merging P start bound left b ∧ Flat start n b)
      (collect fuel n) := by
  match fuel with
  | 0 => omega
  | fuel + 1 =>
    rw [collect.eq_def]
    refine (takeMerge_triple hP).bind fun value? => ?_
    cases value? with
    | none => exact .pure fun _ hb => ⟨⟨nofun, nofun⟩, hb⟩
    | some value =>
      refine .assume (fun _ hb => hb.1) fun ⟨hn, hleft⟩ => ?_
      have hmono {b : Build} (hb : Merging P start bound (left - 1) b) :
          Merging P start bound left b :=
        hb.mono (Nat.sub_le left 1)
      refine ((mergedBy_triple hP fuel value (by omega)).pre fun _ hb => hb.2).bind fun here => ?_
      refine .assume (fun _ hb => hb.1) fun hhere => ?_
      refine ((collect_triple hP fuel n (by omega)).pre fun _ hb => hb.2).bind fun others => ?_
      refine .pure fun b hb => ⟨⟨fun e he => ?_, fun _ => hn⟩, hmono hb.2.1, hb.2.2⟩
      exact (List.mem_append.1 he).elim (hhere e) (hb.1.1 e)
termination_by structural fuel

theorem mergedBy_triple {left : Nat} (hP : Stable P) (fuel value : Nat)
    (hfuel : 4 * left + 4 ≤ fuel) :
    Triple (Merging P start bound left) (· = .malformed)
      (fun es b => (∀ e ∈ es, asks start e.1 = false) ∧ Merging P start bound left b)
      (mergedBy fuel value) := by
  match fuel with
  | 0 => omega
  | fuel + 1 =>
    rw [mergedBy.eq_def]
    refine .get_bind fun b _ => ?_
    split
    · exact flattened_triple hP fuel value (by omega)
    · refine .bind (.mapM fun n _ => flattened_triple hP fuel n (by omega)) fun parts => ?_
      refine .pure fun _ hb => ⟨fun e he => ?_, hb.2⟩
      obtain ⟨part, hpart, he⟩ := List.mem_flatten.1 he
      exact hb.1 part (List.mem_reverse.1 hpart) e he
    · exact .throw fun _ _ => rfl
termination_by structural fuel

theorem flattened_triple {left : Nat} (hP : Stable P) (fuel n : Nat)
    (hfuel : 4 * left + 3 ≤ fuel) :
    Triple (Merging P start bound left) (· = .malformed)
      (fun es b => (∀ e ∈ es, asks start e.1 = false) ∧ Merging P start bound left b)
      (flattened fuel n) := by
  match fuel with
  | 0 => omega
  | fuel + 1 =>
    rw [flattened.eq_def]
    refine entries?_bind fun _ _ => .ite (fun _ => ?_) fun _ => ?_
    · exact .bind (J := fun _ _ => False) (.throw fun _ _ => rfl) fun _ _ => False.elim
    · refine (flatten_triple hP fuel n (by omega)).bind fun _ => ?_
      exact entries?_bind fun b hb => .pure fun b' hb' => ⟨hb.2, hb'.1⟩
termination_by structural fuel

end

/-- **Merging ends.**  As many steps as four times the merges, and two more, are enough to
merge into a mapping whatever it asks for, even itself. -/
theorem flatten_ne_endless (hfuel : 4 * merges (asks b.nodes) b.nodes.toList + 2 ≤ fuel) :
    (flatten fuel n).run b ≠ .error .endless := by
  have hstable : Stable fun _ => True := ⟨fun _ _ => trivial, fun _ => trivial⟩
  have hstart : Merging (fun _ => True) b.nodes b.bound (merges (asks b.nodes) b.nodes.toList) b :=
    ⟨fun _ _ _ => trivial, fun _ => rfl, fun _ => rfl, Nat.le.refl, rfl⟩
  exact fun hrun => nomatch (flatten_triple hstable fuel n hfuel b hstart).2 .endless hrun

end ChainApi.Yaml.Build
