import ChainApi.Proofs.Yaml.Denotation
import Mathlib.Data.List.Nodup
import Mathlib.Data.List.Perm.Subperm

/-!
# ChainApi.Proofs.Yaml.Building

Plain data is built as it is denoted.  The lists and mappings of a graph are filled in the
order in which they are met, and what is noted of one of them is right from then on.

* `Build.run_flatten` — a mapping with texts for keys has nothing to merge;
* `Build.Noted`, `Build.Sound` — what is noted of a node in the end, and what holds while
  lists and mappings wait to be filled;
* `Build.Sound.meet`, `.fill`, `.fillAll` — one step keeps this, and so do all steps;
* `Build.ofGraph_noted` — in the end everything that can be reached is noted.
-/

namespace ChainApi.Yaml

namespace Build

section Runs

variable {b : Build} {n fuel : Nat} {tag : Tag} {text : String} {v : Value} {content : Content}
  {es : List (Nat × Nat)}

/-! ## reading the nodes -/

/-- Is something noted of a node? -/
def met (data : Array (Option Datum)) (n : Nat) : Prop := (data[n]?.join).isSome

theorem run_node (h : b.nodes[n]? = some ⟨tag, content⟩) :
    (node n).run b = .ok (⟨tag, content⟩, b) := by
  show Except.ok ((b.nodes[n]?).getD .blank, b) = _
  rw [h]
  rfl

theorem run_entries? (h : b.nodes[n]? = some ⟨tag, .mapping es⟩) :
    (entries? n).run b = .ok (some es, b) := by
  rw [entries?, run_bind_of_ok (run_node h)]
  rfl

theorem run_meet_of_met (h : met b.data n) : (meet n).run b = .ok ((), b) := by
  have hsome : (b.data[n]?.join).isSome = true := h
  rw [meet, run_bind_of_ok (StateT.run_get b), if_pos hsome]
  rfl

theorem run_meet_of_hollow {d : Datum} (hnew : ¬ met b.data n)
    (node : b.nodes[n]? = some ⟨tag, content⟩) (hollow : hollow? tag = some d) :
    (meet n).run b = .ok ((),
      { b with data := b.data.setIfInBounds n (some d), found := b.found.push n }) := by
  have hnone : ¬ (b.data[n]?.join).isSome = true := hnew
  rw [meet, run_bind_of_ok (StateT.run_get b), if_neg hnone, run_bind_of_ok (run_node node)]
  simp only [hollow]
  rfl

theorem run_scalarText (node : b.nodes[n]? = some ⟨tag, .scalar text⟩) :
    (scalarText (fuel + 1) n).run b = .ok (text, b) := by
  rw [scalarText, run_bind_of_ok (run_node node)]
  rfl

theorem run_scalarKey (node : b.nodes[n]? = some ⟨tag, .scalar text⟩) (plain : tag.isPlain)
    (reads : readScalar tag text = .ok v) : (scalarKey n).run b = .ok (⟨v, 0⟩, b) := by
  have htag : isScalarTag tag = true := by
    cases tag <;> first | rfl | cases plain
  have hreal : (v == .real .nan) = false := by
    rcases eq_of_readScalar plain reads with rfl | ⟨b, rfl⟩ | ⟨i, rfl⟩ | ⟨s, rfl⟩ <;> rfl
  rw [scalarKey, run_bind_of_ok (run_node node)]
  simp only [htag, Bool.not_true, Bool.false_eq_true, if_false]
  rw [run_bind_of_ok (StateT.run_get b), run_bind_of_ok (run_scalarText node)]
  have hlift : (liftM (readScalar tag text) : Building Value).run b = .ok (v, b) := by
    rw [reads]
    rfl
  rw [run_bind_of_ok hlift, hreal]
  rfl

theorem hollow?_of_isPlain (plain : tag.isPlain) : hollow? tag = none := by
  cases tag <;> first | rfl | cases plain

theorem run_meet_of_scalar (hnew : ¬ met b.data n) (node : b.nodes[n]? = some ⟨tag, .scalar text⟩)
    (plain : tag.isPlain) (reads : readScalar tag text = .ok v) :
    (meet n).run b = .ok ((),
      { b with data := b.data.setIfInBounds n (some (.scalar ⟨v, 0⟩)) }) := by
  have hnone : ¬ (b.data[n]?.join).isSome = true := hnew
  have htag := hollow?_of_isPlain plain
  rw [meet, run_bind_of_ok (StateT.run_get b), if_neg hnone, run_bind_of_ok (run_node node)]
  simp only [htag]
  rw [run_bind_of_ok (run_scalarKey node plain reads)]
  rfl

/-! ## merging -/

/-- Are all keys of a mapping texts? -/
def PlainKeys (nodes : Nodes) (es : List (Nat × Nat)) : Prop :=
  ∀ e ∈ es, ∃ name, nodes[e.1]? = some ⟨.str, .scalar name⟩

theorem modify_eq_self {nodes : Nodes} {node : Node} {f : Node → Node}
    (h : nodes[n]? = some node) (hf : f node = node) : nodes.modify n f = nodes := by
  obtain ⟨hn, hget⟩ := Array.getElem?_eq_some_iff.1 h
  refine Array.ext (by simp) fun i hi hi' => ?_
  rw [Array.getElem_modify]
  split
  · next heq =>
    subst heq
    rw [hget, hf]
  · rfl

theorem run_takeMerge (node : b.nodes[n]? = some ⟨tag, .mapping es⟩)
    (keys : PlainKeys b.nodes es) : (takeMerge n).run b = .ok (none, b) := by
  have hfind : (es.find? fun e => (b.nodes[e.1]?.getD .blank).tag == .merge) = none := by
    refine List.find?_eq_none.2 fun e he => ?_
    obtain ⟨name, hkey⟩ := keys e he
    rw [hkey]
    simp
  rw [takeMerge, run_bind_of_ok (StateT.run_get b), run_bind_of_ok (run_entries? node)]
  simp only [hfind]
  rfl

theorem run_unmark (node : b.nodes[n]? = some ⟨tag, .mapping es⟩)
    (keys : PlainKeys b.nodes es) : (unmark n).run b = .ok ((), b) := by
  rw [unmark, run_bind_of_ok (run_entries? node), Option.getD_some]
  clear node
  induction es with
  | nil => rfl
  | cons e es ih =>
    obtain ⟨name, hkey⟩ := keys e List.mem_cons_self
    have hself := modify_eq_self hkey
      (f := fun node => if node.tag == .value then { node with tag := .str } else node) rfl
    have hstep : (modify fun b : Build => { b with nodes := b.nodes.modify e.1 fun node =>
        if node.tag == .value then { node with tag := .str } else node } : Building PUnit).run b =
        .ok (⟨⟩, b) :=
      congrArg (fun nodes =>
        (.ok (PUnit.unit, { b with nodes := nodes }) : Except Fault (PUnit × Build))) hself
    simp only [List.forIn_cons, bind_assoc, pure_bind]
    rw [run_bind_of_ok hstep]
    exact ih fun e he => keys e (List.mem_cons_of_mem _ he)

/-- A mapping with texts for keys has nothing to merge. -/
theorem run_flatten (node : b.nodes[n]? = some ⟨tag, .mapping es⟩)
    (keys : PlainKeys b.nodes es) : (flatten (fuel + 2) n).run b = .ok ((), b) := by
  have hcollect : (collect (fuel + 1) n).run b = .ok ([], b) := by
    rw [collect, run_bind_of_ok (run_takeMerge node keys)]
    rfl
  rw [flatten, run_bind_of_ok hcollect, run_bind_of_ok (run_unmark node keys)]
  rfl

end Runs

/-! ## what is noted -/

/-- The text of a node. -/
def nodeText (nodes : Nodes) (n : Nat) : String :=
  match nodes[n]? with
  | some ⟨_, .scalar text⟩ => text
  | _ => ""

/-- The entries of a mapping with their texts as keys. -/
def keyed (nodes : Nodes) (es : List (Nat × Nat)) : List (Key × Nat) :=
  es.map fun e => (⟨.str (nodeText nodes e.1), 0⟩, e.2)

/-- The entries that are left when they are written one after the other. -/
def writeAll (es : List (Key × Nat)) : List (Key × Nat) :=
  es.foldl (fun es e => write es e.1 e.2) []

/-- What is noted of a node of plain data in the end: its value or its parts, of which
something is noted, too. -/
inductive Noted (nodes : Nodes) (data : Array (Option Datum)) (n : Nat) : Datum → Prop
  | scalar {tag text v} (node : nodes[n]? = some ⟨tag, .scalar text⟩) (plain : tag.isPlain)
      (reads : readScalar tag text = .ok v) : Noted nodes data n (.scalar ⟨v, 0⟩)
  | list {items} (node : nodes[n]? = some ⟨.seq, .sequence items⟩)
      (parts : ∀ m ∈ items, met data m) : Noted nodes data n (.list items)
  | map {es} (node : nodes[n]? = some ⟨.map, .mapping es⟩)
      (parts : ∀ e ∈ es, met data e.2) : Noted nodes data n (.map (writeAll (keyed nodes es)))

/-- What holds while the lists and mappings from the place `i` on wait to be filled. -/
structure Sound (nodes : Nodes) (i : Nat) (b : Build) : Prop where
  nodes_eq : b.nodes = nodes
  bound_le : 2 ≤ b.bound
  size_eq : b.data.size = nodes.size
  place : i ≤ b.found.size
  nodup : b.found.toList.Nodup
  found : ∀ n ∈ b.found.toList, met b.data n ∧ (∃ v, Denotes nodes n v) ∧
    ∃ node, nodes[n]? = some node ∧ (hollow? node.tag).isSome
  noted : ∀ n d, b.data[n]?.join = some d → n ∈ b.found.toList.drop i ∨ Noted nodes b.data n d

/-- A step that keeps what holds and forgets nothing. -/
structure Onward (nodes : Nodes) (i : Nat) (b b' : Build) : Prop where
  sound : Sound nodes i b'
  grows : ∀ n, met b.data n → met b'.data n
  found_prefix : b.found.toList <+: b'.found.toList

section Notes

variable {nodes : Nodes} {data data' : Array (Option Datum)} {b b' : Build} {i m n : Nat}
  {d : Datum} {tag : Tag} {text : String} {items : List Nat} {es : List (Nat × Nat)}

theorem Noted.mono (h : Noted nodes data n d) (grows : ∀ n, met data n → met data' n) :
    Noted nodes data' n d := by
  cases h with
  | scalar node plain reads => exact .scalar node plain reads
  | list node parts => exact .list node fun m hm => grows m (parts m hm)
  | map node parts => exact .map node fun e he => grows e.2 (parts e he)

/-- What is noted of a scalar is its value. -/
theorem Noted.of_scalar {v : Value} (h : Noted nodes data n d)
    (node : nodes[n]? = some ⟨tag, .scalar text⟩) (reads : readScalar tag text = .ok v) :
    d = .scalar ⟨v, 0⟩ := by
  cases h with
  | scalar node' _ reads' =>
    rw [node] at node'
    cases node'
    cases reads.symm.trans reads'
    rfl
  | list node' | map node' =>
    rw [node] at node'
    cases node'

/-- What is noted of a list is its items. -/
theorem Noted.of_list (h : Noted nodes data n d)
    (node : nodes[n]? = some ⟨.seq, .sequence items⟩) :
    d = .list items ∧ ∀ m ∈ items, met data m := by
  cases h with
  | list node' parts =>
    rw [node] at node'
    cases node'
    exact ⟨rfl, parts⟩
  | scalar node' | map node' =>
    rw [node] at node'
    cases node'

/-- What is noted of a mapping is its entries. -/
theorem Noted.of_map (h : Noted nodes data n d) (node : nodes[n]? = some ⟨.map, .mapping es⟩) :
    d = .map (writeAll (keyed nodes es)) ∧ ∀ e ∈ es, met data e.2 := by
  cases h with
  | map node' parts =>
    rw [node] at node'
    cases node'
    exact ⟨rfl, parts⟩
  | scalar node' | list node' =>
    rw [node] at node'
    cases node'

/-- What is noted of a node is noted of no other. -/
theorem join_set {α : Type} {xs : Array (Option α)} (hn : n < xs.size) (x : α) (m : Nat) :
    ((xs.setIfInBounds n (some x))[m]?).join = if n = m then some x else xs[m]?.join := by
  rw [Array.getElem?_setIfInBounds, if_pos hn]
  split <;> rfl

theorem met_set (hn : n < data.size) (d : Datum) : met (data.setIfInBounds n (some d)) n := by
  rw [met, join_set hn, if_pos rfl]
  rfl

theorem met_set_of_met (hn : n < data.size) (d : Datum) (hm : met data m) :
    met (data.setIfInBounds n (some d)) m := by
  rw [met, join_set hn]
  split
  · rfl
  · exact hm

/-- Something is noted of a node, and all other nodes wait on unless they are noted. -/
theorem noted_set {waiting waiting' : List Nat} (hn : n < data.size)
    (h : ∀ m d', data[m]?.join = some d' → m ∈ waiting ∨ Noted nodes data m d')
    (hothers : ∀ m, m ≠ n → m ∈ waiting → m ∈ waiting')
    (hself : n ∈ waiting' ∨ Noted nodes data n d) (m : Nat) (d' : Datum)
    (hm : (data.setIfInBounds n (some d))[m]?.join = some d') :
    m ∈ waiting' ∨ Noted nodes (data.setIfInBounds n (some d)) m d' := by
  have hgrows (m : Nat) (hm : met data m) := met_set_of_met hn d hm
  rw [join_set hn] at hm
  split at hm
  · next heq =>
    cases hm
    subst heq
    exact hself.imp_right fun hnoted => hnoted.mono hgrows
  · next hne =>
    exact (h m d' hm).imp (hothers m (Ne.symm hne)) fun hnoted => hnoted.mono hgrows

theorem Onward.refl (h : Sound nodes i b) : Onward nodes i b b :=
  ⟨h, fun _ hn => hn, List.prefix_rfl⟩

theorem Onward.trans {b'' : Build} (h : Onward nodes i b b') (h' : Onward nodes i b' b'') :
    Onward nodes i b b'' :=
  ⟨h'.sound, fun n hn => h'.grows n (h.grows n hn), h.found_prefix.trans h'.found_prefix⟩

/-- Something is noted of a node in the end that is denoted by a scalar. -/
theorem Sound.noted_of_scalar (h : Sound nodes i b) (node : nodes[n]? = some ⟨tag, .scalar text⟩)
    (plain : tag.isPlain) (hd : b.data[n]?.join = some d) : Noted nodes b.data n d := by
  refine (h.noted n d hd).resolve_left fun hmem => ?_
  obtain ⟨-, -, node', hnode, hhollow⟩ := h.found n (List.mem_of_mem_drop hmem)
  rw [node] at hnode
  cases hnode
  simp [hollow?_of_isPlain plain] at hhollow

theorem Sound.lt_size (h : Sound nodes i b) {node : Node} (hnode : nodes[n]? = some node) :
    n < b.data.size := by
  rw [h.size_eq]
  exact (Array.getElem?_eq_some_iff.1 hnode).1

/-- A list or mapping that is met for the first time waits to be filled. -/
theorem Sound.meet_hollow {v : Value} {content : Content} (h : Sound nodes i b)
    (hn : Denotes nodes n v) (hmet : ¬ met b.data n) (node : nodes[n]? = some ⟨tag, content⟩)
    (hhollow : hollow? tag = some d) :
    ∃ b', (meet n).run b = .ok ((), b') ∧ Onward nodes i b b' ∧ met b'.data n := by
  have hlt := h.lt_size node
  have hdrop : (b.found.push n).toList.drop i = b.found.toList.drop i ++ [n] := by
    rw [Array.toList_push, List.drop_append_of_le_length (by simpa using h.place)]
  have hnodup : (b.found.push n).toList.Nodup := by
    have hfresh : n ∉ b.found.toList := fun hmem => hmet (h.found n hmem).1
    rw [Array.toList_push, ← List.concat_eq_append]
    exact h.nodup.concat hfresh
  have hfound : ∀ m ∈ (b.found.push n).toList, met (b.data.setIfInBounds n (some d)) m ∧
      (∃ v, Denotes nodes m v) ∧ ∃ node, nodes[m]? = some node ∧ (hollow? node.tag).isSome := by
    intro m hm
    rw [Array.toList_push, List.mem_append, List.mem_singleton] at hm
    rcases hm with hm | rfl
    · exact ⟨met_set_of_met hlt d (h.found m hm).1, (h.found m hm).2⟩
    · exact ⟨met_set hlt d, ⟨v, hn⟩, _, node, by rw [hhollow]; rfl⟩
  have hwaits (m : Nat) (_ : m ≠ n) (hmem : m ∈ b.found.toList.drop i) :
      m ∈ (b.found.push n).toList.drop i := by
    rw [hdrop]
    exact List.mem_append_left _ hmem
  have hself : n ∈ (b.found.push n).toList.drop i := by
    rw [hdrop]
    exact List.mem_append_right _ List.mem_cons_self
  have hnoted := noted_set (d := d) hlt h.noted hwaits (.inl hself)
  exact ⟨_, run_meet_of_hollow hmet (by rw [h.nodes_eq]; exact node) hhollow,
    ⟨⟨h.nodes_eq, h.bound_le, by simp [h.size_eq], by simpa using Nat.le_succ_of_le h.place,
      hnodup, hfound, hnoted⟩, fun m hm => met_set_of_met hlt d hm, by simp⟩, met_set hlt d⟩

/-- The value of a scalar that is met for the first time is noted. -/
theorem Sound.meet_scalar {v : Value} (h : Sound nodes i b) (hmet : ¬ met b.data n)
    (node : nodes[n]? = some ⟨tag, .scalar text⟩) (plain : tag.isPlain)
    (reads : readScalar tag text = .ok v) :
    ∃ b', (meet n).run b = .ok ((), b') ∧ Onward nodes i b b' ∧ met b'.data n := by
  have hlt := h.lt_size node
  have hnoted := noted_set (d := .scalar ⟨v, 0⟩) hlt h.noted (fun m _ hmem => hmem)
    (.inr (.scalar node plain reads))
  exact ⟨_, run_meet_of_scalar hmet (by rw [h.nodes_eq]; exact node) plain reads,
    ⟨⟨h.nodes_eq, h.bound_le, by simp [h.size_eq], h.place, h.nodup,
      fun m hm => ⟨met_set_of_met hlt _ (h.found m hm).1, (h.found m hm).2⟩, hnoted⟩,
      fun m hm => met_set_of_met hlt _ hm, List.prefix_rfl⟩, met_set hlt _⟩

/-- A node is met: something is noted of it then. -/
theorem Sound.meet {v : Value} (h : Sound nodes i b) (hn : Denotes nodes n v) :
    ∃ b', (meet n).run b = .ok ((), b') ∧ Onward nodes i b b' ∧ met b'.data n := by
  by_cases hmet : met b.data n
  · exact ⟨b, run_meet_of_met hmet, .refl h, hmet⟩
  · cases hn with
    | scalar node plain reads => exact h.meet_scalar hmet node plain reads
    | list node parts => exact h.meet_hollow (.list node parts) hmet node rfl
    | map node parts => exact h.meet_hollow (.map node parts) hmet node rfl

theorem Sound.key (h : Sound nodes i b) (node : nodes[n]? = some ⟨.str, .scalar text⟩) :
    ∃ b', (key n).run b = .ok (⟨.str text, 0⟩, b') ∧ Onward nodes i b b' := by
  obtain ⟨b', hrun, honward, hmet⟩ := h.meet (.scalar node rfl rfl)
  obtain ⟨d, hd⟩ := Option.isSome_iff_exists.1 hmet
  have hnoted := honward.sound.noted_of_scalar node rfl hd
  refine ⟨b', ?_, honward⟩
  rw [Build.key, run_bind_of_ok hrun, run_bind_of_ok (StateT.run_get b')]
  simp only [hd, hnoted.of_scalar node rfl]
  rfl

/-- The items of a list are met. -/
theorem Sound.meetAll (h : Sound nodes i b) (hitems : ∀ m ∈ items, ∃ v, Denotes nodes m v) :
    ∃ b', (items.forM Build.meet).run b = .ok ((), b') ∧ Onward nodes i b b' ∧
      ∀ m ∈ items, met b'.data m := by
  induction items generalizing b with
  | nil => exact ⟨b, rfl, .refl h, by simp⟩
  | cons m items ih =>
    obtain ⟨v, hm⟩ := hitems m List.mem_cons_self
    obtain ⟨b₁, hfirst, honward, hmet⟩ := h.meet hm
    obtain ⟨b₂, hrest, honward', hmets⟩ :=
      ih honward.sound fun m hm => hitems m (List.mem_cons_of_mem _ hm)
    refine ⟨b₂, ?_, honward.trans honward', ?_⟩
    · show (Build.meet m >>= fun _ => items.forM Build.meet).run b = _
      rw [run_bind_of_ok hfirst, hrest]
    · exact List.forall_mem_cons.2 ⟨honward'.grows m hmet, hmets⟩

/-- What is noted when a list or mapping is filled is right, and the next one can be. -/
theorem Sound.note {v : Value} (h : Sound nodes i b) (hi : b.found.toList[i]? = some n)
    (hn : Denotes nodes n v) (hd : Noted nodes b.data n d) :
    Sound nodes (i + 1) { b with data := b.data.setIfInBounds n (some d) } ∧
      ∀ m, met b.data m → met (b.data.setIfInBounds n (some d)) m := by
  have hlt : n < b.data.size := by
    rw [h.size_eq]
    exact hn.lt
  have hgrows (m : Nat) (hm : met b.data m) := met_set_of_met hlt d hm
  obtain ⟨hplace, hget⟩ := List.getElem?_eq_some_iff.1 hi
  have hdrop : b.found.toList.drop i = n :: b.found.toList.drop (i + 1) := by
    rw [List.drop_eq_getElem_cons hplace, hget]
  have hothers (m : Nat) (hne : m ≠ n) (hmem : m ∈ b.found.toList.drop i) :
      m ∈ b.found.toList.drop (i + 1) := by
    rw [hdrop] at hmem
    exact (List.mem_cons.1 hmem).resolve_left hne
  exact ⟨⟨h.nodes_eq, h.bound_le, by simp [h.size_eq],
    Nat.succ_le_of_lt (by simpa using hplace), h.nodup,
    fun m hm => ⟨hgrows m (h.found m hm).1, (h.found m hm).2⟩,
    noted_set hlt h.noted hothers (.inr hd)⟩, hgrows⟩

/-- The members of a mapping are met, and their names are read. -/
theorem Sound.mapM (h : Sound nodes i b) (keys : PlainKeys nodes es)
    (hes : ∀ e ∈ es, ∃ v, Denotes nodes e.2 v) :
    ∃ b', (es.mapM fun e => do
        let k ← Build.key e.1
        Build.meet e.2
        return (k, e.2) : Building (List (Key × Nat))).run b = .ok (keyed nodes es, b') ∧
      Onward nodes i b b' ∧ ∀ e ∈ es, met b'.data e.2 := by
  induction es generalizing b with
  | nil => exact ⟨b, rfl, .refl h, by simp⟩
  | cons e es ih =>
    obtain ⟨name, hkey⟩ := keys e List.mem_cons_self
    obtain ⟨v, hv⟩ := hes e List.mem_cons_self
    obtain ⟨b₁, hname, honward⟩ := h.key hkey
    obtain ⟨b₂, hmeet, honward', hmet⟩ := honward.sound.meet hv
    obtain ⟨b₃, hrest, honward'', hmets⟩ :=
      ih honward'.sound (fun e he => keys e (List.mem_cons_of_mem _ he))
        fun e he => hes e (List.mem_cons_of_mem _ he)
    have htext : nodeText nodes e.1 = name := by
      rw [nodeText, hkey]
    refine ⟨b₃, ?_, (honward.trans honward').trans honward'', ?_⟩
    · rw [List.mapM_cons]
      simp only [bind_assoc, pure_bind]
      rw [run_bind_of_ok hname, run_bind_of_ok hmeet, run_bind_of_ok hrest, ← htext]
      rfl
    · exact List.forall_mem_cons.2 ⟨honward''.grows _ hmet, hmets⟩

/-- The members of a mapping are those that it denotes, once it is flattened. -/
theorem Sound.members {es : List (Nat × Nat)} {ms : List (String × Value)} (h : Sound nodes i b)
    (node : nodes[n]? = some ⟨.map, .mapping es⟩) (parts : DenotesMembers nodes n es ms) :
    ∃ b', (members n).run b = .ok (writeAll (keyed nodes es), b') ∧
      Onward nodes i b b' ∧ ∀ e ∈ es, met b'.data e.2 := by
  obtain ⟨b', hmeet, honward, hmets⟩ :=
    h.mapM parts.keys fun e he => (parts.exists_denotes e he).2
  have hnode : b.nodes[n]? = some ⟨.map, .mapping es⟩ := by
    rw [h.nodes_eq]
    exact node
  have hkeys : PlainKeys b.nodes es := by
    rw [h.nodes_eq]
    exact parts.keys
  have hbound := h.bound_le
  obtain ⟨fuel, hfuel⟩ : ∃ fuel, b.bound = fuel + 2 := ⟨b.bound - 2, by omega⟩
  refine ⟨b', ?_, honward, hmets⟩
  rw [Build.members, run_bind_of_ok (run_entries? hnode)]
  simp only [Option.isNone_some, Bool.false_eq_true, if_false]
  rw [run_bind_of_ok (StateT.run_get b), hfuel, run_bind_of_ok (run_flatten hnode hkeys),
    run_bind_of_ok (run_entries? hnode), Option.getD_some, run_bind_of_ok hmeet]
  rfl

/-- A list or mapping is filled. -/
theorem Sound.fill {v : Value} (h : Sound nodes i b) (hi : b.found.toList[i]? = some n)
    (hn : Denotes nodes n v) :
    ∃ b', (fill n).run b = .ok ((), b') ∧ Sound nodes (i + 1) b' ∧
      ∀ m, met b.data m → met b'.data m := by
  have hplace {b' : Build} (honward : Onward nodes i b b') : b'.found.toList[i]? = some n := by
    obtain ⟨t, ht⟩ := honward.found_prefix
    rw [← ht, List.getElem?_append_left (List.getElem?_eq_some_iff.1 hi).1, hi]
  cases hn with
  | scalar node plain =>
    obtain ⟨-, -, node', hnode, hhollow⟩ := h.found n (List.mem_of_getElem? hi)
    rw [node] at hnode
    cases hnode
    simp [hollow?_of_isPlain plain] at hhollow
  | @list _ items vs node parts =>
    obtain ⟨b', hmeet, honward, hmets⟩ := h.meetAll fun m hm => (parts.exists_denotes m hm).2
    obtain ⟨hsound, hgrows⟩ := honward.sound.note (hplace honward) (.list node parts)
      (.list node hmets)
    refine ⟨_, ?_, hsound, fun m hm => hgrows m (honward.grows m hm)⟩
    rw [Build.fill, run_bind_of_ok (run_node (by rw [h.nodes_eq]; exact node))]
    simp only
    rw [run_bind_of_ok hmeet]
    rfl
  | @map _ es ms node parts =>
    obtain ⟨b', hmembers, honward, hmets⟩ := h.members node parts
    obtain ⟨hsound, hgrows⟩ := honward.sound.note (hplace honward) (.map node parts)
      (.map node hmets)
    refine ⟨_, ?_, hsound, fun m hm => hgrows m (honward.grows m hm)⟩
    rw [Build.fill, run_bind_of_ok (run_node (by rw [h.nodes_eq]; exact node))]
    simp only
    rw [run_bind_of_ok hmembers]
    rfl

theorem Sound.length_le (h : Sound nodes i b) : b.found.size ≤ nodes.size := by
  have hsub : b.found.toList ⊆ List.range nodes.size := by
    intro n hn
    obtain ⟨-, -, node, hnode, -⟩ := h.found n hn
    exact List.mem_range.2 (Array.getElem?_eq_some_iff.1 hnode).1
  simpa using (h.nodup.subperm hsub).length_le

/-- All lists and mappings are filled. -/
theorem Sound.fillAll (fuel : Nat) (h : Sound nodes i b) (hfuel : nodes.size < fuel + i) :
    ∃ b', (fillAll fuel i).run b = .ok ((), b') ∧ (∀ m, met b.data m → met b'.data m) ∧
      b'.data.size = nodes.size ∧ ∀ n d, b'.data[n]?.join = some d → Noted nodes b'.data n d := by
  induction fuel generalizing i b with
  | zero => exact absurd (Nat.le_trans h.place h.length_le) (by omega)
  | succ fuel ih =>
    cases hi : b.found[i]? with
    | none =>
      have hend : b.found.toList.drop i = [] := by simpa using hi
      refine ⟨b, ?_, fun _ hm => hm, h.size_eq, fun n d hd => ?_⟩
      · rw [Build.fillAll, run_bind_of_ok (StateT.run_get b), hi]
        rfl
      · exact (h.noted n d hd).resolve_left (by simp [hend])
    | some n =>
      have hget : b.found.toList[i]? = some n := by simpa using hi
      obtain ⟨-, ⟨v, hn⟩, -⟩ := h.found n (List.mem_of_getElem? hget)
      obtain ⟨b₁, hfill, hsound, hgrows⟩ := h.fill hget hn
      obtain ⟨b₂, hrest, hgrows', hsize, hnoted⟩ := ih hsound (by omega)
      refine ⟨b₂, ?_, fun m hm => hgrows' m (hgrows m hm), hsize, hnoted⟩
      rw [Build.fillAll, run_bind_of_ok (StateT.run_get b), hi]
      simp only
      rw [run_bind_of_ok hfill, hrest]

theorem le_foldl_add (f : Node → Nat) (l : List Node) (k : Nat) :
    k ≤ l.foldl (fun n node => n + f node) k := by
  induction l generalizing k with
  | nil => exact Nat.le_refl k
  | cons node l ih => exact Nat.le_trans (Nat.le_add_right k _) (ih _)

/-- Everything that can be reached in plain data is noted in the end. -/
theorem ofGraph_noted {g : Graph} {v : Value} (h : Denotes g.nodes g.root v) :
    ∃ data, ofGraph g = .ok data ∧ data.size = g.nodes.size ∧ met data g.root ∧
      ∀ n d, data[n]?.join = some d → Noted g.nodes data n d := by
  have hstart (bound : Nat) (hbound : 2 ≤ bound) :
      Sound g.nodes 0 { nodes := g.nodes, data := .replicate g.nodes.size none, bound } := by
    refine ⟨rfl, hbound, by simp, Nat.zero_le _, by simp, by simp, fun n d hd => ?_⟩
    rw [Array.getElem?_replicate] at hd
    split at hd <;> cases hd
  have hbound (f : Node → Nat) : 2 ≤ 4 * g.nodes.foldl (fun n node => n + f node) 1 := by
    have := le_foldl_add f g.nodes.toList 1
    rw [Array.foldl_toList] at this
    omega
  obtain ⟨b, hmeet, honward, hmet⟩ := (hstart _ (hbound _)).meet h
  obtain ⟨b', hfill, hgrows, hsize, hnoted⟩ :=
    honward.sound.fillAll (g.nodes.size + 1) (Nat.lt_succ_self _)
  refine ⟨b'.data, ?_, hsize, hgrows _ hmet, hnoted⟩
  rw [ofGraph, run_bind_of_ok hmeet, hfill]
  rfl

end Notes

end Build

end ChainApi.Yaml
