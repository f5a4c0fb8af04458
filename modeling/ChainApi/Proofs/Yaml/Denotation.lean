import ChainApi.Proofs.Json.Written
import ChainApi.Yaml

/-!
# ChainApi.Proofs.Yaml.Denotation

What a node of a graph denotes, told by following the graph, where it holds plain data:
scalars that are text, truth values, integers or nothing, lists, and mappings with
texts for keys.  The parts of a node come after it, so that nothing contains itself.

* `Denotes` — a node denotes a value;
* `Denotes.congr` — what counts is the part of the graph from the node on;
* `Denotes.unique` — no node denotes two values;
* `Denotes.hasKnot` — nothing that is denoted leads back to itself.
-/

namespace ChainApi

namespace Value

variable {es : List (Value × Value)} {ms : List (String × Value)} {k v : Value}

theorem hasKnotItem_eq_false {vs : List Value} :
    hasKnotItem vs = false ↔ ∀ v ∈ vs, v.hasKnot = false := by
  induction vs with
  | nil => simp [hasKnotItem]
  | cons v vs ih => simp [hasKnotItem, ih]

theorem hasKnotEntry_eq_false :
    hasKnotEntry es = false ↔ ∀ e ∈ es, e.1.hasKnot = false ∧ e.2.hasKnot = false := by
  induction es with
  | nil => simp [hasKnotEntry]
  | cons e es ih =>
    obtain ⟨k, v⟩ := e
    simp [hasKnotEntry, ih, and_assoc]

/-- An entry that was there before, or was written, with a key from there or from here. -/
theorem mem_writeEntry {e : Value × Value} (h : e ∈ writeEntry es k v) :
    e ∈ es ∨ (e.2 = v ∧ (e.1 = k ∨ ∃ e' ∈ es, e.1 = e'.1)) := by
  rw [writeEntry] at h
  split at h
  · obtain ⟨e', hmem, rfl⟩ := List.mem_map.1 h
    split
    · exact .inr ⟨rfl, .inr ⟨e', hmem, rfl⟩⟩
    · exact .inl hmem
  · rcases List.mem_append.1 h with h | h
    · exact .inl h
    · rw [List.mem_singleton.1 h]
      exact .inr ⟨rfl, .inl rfl⟩

/-- What holds of all entries and is asked of all that is written holds of the result. -/
theorem forall_writeMembers {P : Value → Value → Prop} (hes : ∀ e ∈ es, P e.1 e.2)
    (hms : ∀ m ∈ ms, ∀ k : Value, (k = .str m.1 ∨ ∃ v, P k v) → P k m.2) :
    ∀ e ∈ writeMembers es ms, P e.1 e.2 := by
  induction ms generalizing es with
  | nil => exact hes
  | cons m ms ih =>
    refine ih (fun e he => ?_) fun m' hm' => hms m' (List.mem_cons_of_mem _ hm')
    rcases mem_writeEntry he with he | ⟨hv, hk | ⟨e', he', hk⟩⟩
    · exact hes e he
    · rw [hv]
      exact hms m List.mem_cons_self e.1 (.inl hk)
    · rw [hv, hk]
      exact hms m List.mem_cons_self e'.1 (.inr ⟨e'.2, hes e' he'⟩)

theorem hasKnotEntry_writeMembers (hms : ∀ m ∈ ms, m.2.hasKnot = false) :
    hasKnotEntry (writeMembers [] ms) = false := by
  refine hasKnotEntry_eq_false.2 (forall_writeMembers
    (P := fun k v => k.hasKnot = false ∧ v.hasKnot = false) (by simp)
    fun m hm k hk => ⟨?_, hms m hm⟩)
  rcases hk with rfl | ⟨_, hk, -⟩
  · rfl
  · exact hk

end Value

namespace Yaml

/-- After a step that succeeds the next one starts where it ended. -/
theorem run_bind_of_ok {x : StateT σ (Except Fault) α} {f : α → StateT σ (Except Fault) β}
    {s t : σ} {a : α} (h : x.run s = .ok (a, t)) : (x >>= f).run s = (f a).run t := by
  rw [StateT.run_bind, h]
  rfl

/-- The tags of the scalars of plain data. -/
def Tag.isPlain : Tag → Bool
  | .null | .bool | .int | .str => true
  | _ => false

mutual

/-- A node denotes a value. -/
inductive Denotes (nodes : Nodes) : Nat → Value → Prop
  | scalar {n tag text v} (node : nodes[n]? = some ⟨tag, .scalar text⟩) (plain : tag.isPlain)
      (reads : Build.readScalar tag text = .ok v) : Denotes nodes n v
  | list {n items vs} (node : nodes[n]? = some ⟨.seq, .sequence items⟩)
      (parts : DenotesItems nodes n items vs) : Denotes nodes n (.list vs)
  | map {n es ms} (node : nodes[n]? = some ⟨.map, .mapping es⟩)
      (parts : DenotesMembers nodes n es ms) : Denotes nodes n (.map (Value.writeMembers [] ms))

/-- Nodes after `n` denote the items of a list. -/
inductive DenotesItems (nodes : Nodes) : Nat → List Nat → List Value → Prop
  | nil {n} : DenotesItems nodes n [] []
  | cons {n m v items vs} (later : n < m) (item : Denotes nodes m v)
      (rest : DenotesItems nodes n items vs) : DenotesItems nodes n (m :: items) (v :: vs)

/-- Nodes after `n` denote the names and values of the members of a mapping. -/
inductive DenotesMembers (nodes : Nodes) : Nat → List (Nat × Nat) → List (String × Value) → Prop
  | nil {n} : DenotesMembers nodes n [] []
  | cons {n k m name v es ms} (key : nodes[k]? = some ⟨.str, .scalar name⟩) (laterKey : n < k)
      (later : n < m) (value : Denotes nodes m v) (rest : DenotesMembers nodes n es ms) :
      DenotesMembers nodes n ((k, m) :: es) ((name, v) :: ms)

end

variable {nodes nodes' : Nodes}

/-! ## the part of the graph that counts -/

mutual

/-- What a node denotes is told by the graph from the node on. -/
theorem Denotes.congr {n : Nat} {v : Value} (h : Denotes nodes n v)
    (same : ∀ m, n ≤ m → ∀ node, nodes[m]? = some node → nodes'[m]? = some node) :
    Denotes nodes' n v := by
  have hlater (m : Nat) (hm : n < m) := same m (Nat.le_of_lt hm)
  match h with
  | .scalar node plain reads => exact .scalar (same n (Nat.le_refl n) _ node) plain reads
  | .list node parts => exact .list (same n (Nat.le_refl n) _ node) (parts.congr hlater)
  | .map node parts => exact .map (same n (Nat.le_refl n) _ node) (parts.congr hlater)

theorem DenotesItems.congr {n : Nat} {items : List Nat} {vs : List Value}
    (h : DenotesItems nodes n items vs)
    (same : ∀ m, n < m → ∀ node, nodes[m]? = some node → nodes'[m]? = some node) :
    DenotesItems nodes' n items vs := by
  match h with
  | .nil => exact .nil
  | .cons later item rest =>
    exact .cons later (item.congr fun m hm => same m (Nat.lt_of_lt_of_le later hm))
      (rest.congr same)

theorem DenotesMembers.congr {n : Nat} {es : List (Nat × Nat)} {ms : List (String × Value)}
    (h : DenotesMembers nodes n es ms)
    (same : ∀ m, n < m → ∀ node, nodes[m]? = some node → nodes'[m]? = some node) :
    DenotesMembers nodes' n es ms := by
  match h with
  | .nil => exact .nil
  | .cons key laterKey later value rest =>
    exact .cons (same _ laterKey _ key) laterKey later
      (value.congr fun m hm => same m (Nat.lt_of_lt_of_le later hm)) (rest.congr same)

end

/-! ## parts -/

theorem Denotes.lt {n : Nat} {v : Value} (h : Denotes nodes n v) : n < nodes.size := by
  cases h with
  | scalar node | list node | map node => exact (Array.getElem?_eq_some_iff.1 node).1

theorem DenotesItems.exists_denotes {n : Nat} {items : List Nat} {vs : List Value}
    (h : DenotesItems nodes n items vs) : ∀ m ∈ items, n < m ∧ ∃ v, Denotes nodes m v := by
  match h with
  | .nil => simp
  | .cons later item rest =>
    exact List.forall_mem_cons.2 ⟨⟨later, _, item⟩, rest.exists_denotes⟩

theorem DenotesMembers.exists_denotes {n : Nat} {es : List (Nat × Nat)}
    {ms : List (String × Value)} (h : DenotesMembers nodes n es ms) :
    ∀ e ∈ es, n < e.2 ∧ ∃ v, Denotes nodes e.2 v := by
  match h with
  | .nil => simp
  | .cons _ _ later value rest =>
    exact List.forall_mem_cons.2 ⟨⟨later, _, value⟩, rest.exists_denotes⟩

theorem DenotesMembers.keys {n : Nat} {es : List (Nat × Nat)} {ms : List (String × Value)}
    (h : DenotesMembers nodes n es ms) :
    ∀ e ∈ es, ∃ name, nodes[e.1]? = some ⟨.str, .scalar name⟩ := by
  match h with
  | .nil => simp
  | .cons key _ _ _ rest => exact List.forall_mem_cons.2 ⟨⟨_, key⟩, rest.keys⟩

/-! ## one value for each node -/

/-- The values of the scalars of plain data. -/
theorem eq_of_readScalar {tag : Tag} {text : String} {v : Value} (plain : tag.isPlain)
    (reads : Build.readScalar tag text = .ok v) :
    v = .null ∨ (∃ b, v = .bool b) ∨ (∃ i, v = .int i) ∨ ∃ s, v = .str s := by
  unfold Tag.isPlain at plain
  split at plain
  · cases reads
    exact .inl rfl
  · rw [Build.readScalar] at reads
    cases htruth : Scalar.truth text.toList <;> rw [htruth] at reads <;> cases reads
    exact .inr (.inl ⟨_, rfl⟩)
  · rw [Build.readScalar] at reads
    cases hint : Scalar.integer text.toList <;> rw [hint] at reads <;> cases reads
    exact .inr (.inr (.inl ⟨_, rfl⟩))
  · cases reads
    exact .inr (.inr (.inr ⟨_, rfl⟩))
  · cases plain

mutual

/-- No node denotes two values. -/
theorem Denotes.unique {n : Nat} {v w : Value} (h : Denotes nodes n v)
    (h' : Denotes nodes n w) : v = w := by
  match h with
  | .scalar node _ reads =>
    cases h' with
    | scalar node' _ reads' =>
      rw [node] at node'
      cases node'
      exact Except.ok.inj (reads.symm.trans reads')
    | list node' _ | map node' _ => rw [node] at node'; cases node'
  | .list node parts =>
    cases h' with
    | list node' parts' =>
      rw [node] at node'
      cases node'
      rw [parts.unique parts']
    | scalar node' _ _ | map node' _ => rw [node] at node'; cases node'
  | .map node parts =>
    cases h' with
    | map node' parts' =>
      rw [node] at node'
      cases node'
      rw [parts.unique parts']
    | scalar node' _ _ | list node' _ => rw [node] at node'; cases node'

theorem DenotesItems.unique {n : Nat} {items : List Nat} {vs ws : List Value}
    (h : DenotesItems nodes n items vs)
    (h' : DenotesItems nodes n items ws) : vs = ws := by
  match h, h' with
  | .nil, .nil => rfl
  | .cons _ item rest, .cons _ item' rest' => rw [item.unique item', rest.unique rest']

theorem DenotesMembers.unique {n : Nat} {es : List (Nat × Nat)}
    {ms ms' : List (String × Value)} (h : DenotesMembers nodes n es ms)
    (h' : DenotesMembers nodes n es ms') : ms = ms' := by
  match h, h' with
  | .nil, .nil => rfl
  | .cons key _ _ value rest, .cons key' _ _ value' rest' =>
    rw [key] at key'
    cases key'
    rw [value.unique value', rest.unique rest']

end

/-! ## no knots -/

mutual

/-- What is denoted does not lead back to itself. -/
theorem Denotes.hasKnot {n : Nat} {v : Value} (h : Denotes nodes n v) : v.hasKnot = false := by
  match h with
  | .scalar _ plain reads =>
    rcases eq_of_readScalar plain reads with rfl | ⟨b, rfl⟩ | ⟨i, rfl⟩ | ⟨s, rfl⟩ <;> rfl
  | .list _ parts => exact parts.hasKnotItem
  | .map _ parts => exact Value.hasKnotEntry_writeMembers parts.hasKnot

theorem DenotesItems.hasKnotItem {n : Nat} {items : List Nat} {vs : List Value}
    (h : DenotesItems nodes n items vs) :
    Value.hasKnotItem vs = false := by
  match h with
  | .nil => rfl
  | .cons _ item rest => rw [Value.hasKnotItem, item.hasKnot, rest.hasKnotItem, Bool.or_self]

theorem DenotesMembers.hasKnot {n : Nat} {es : List (Nat × Nat)} {ms : List (String × Value)}
    (h : DenotesMembers nodes n es ms) :
    ∀ m ∈ ms, m.2.hasKnot = false := by
  match h with
  | .nil => exact fun m hm => absurd hm List.not_mem_nil
  | .cons _ _ _ value rest =>
    intro m hm
    rcases List.mem_cons.1 hm with rfl | hm
    · exact value.hasKnot
    · exact rest.hasKnot m hm

end

end Yaml

end ChainApi
