import ChainApi.Proofs.Yaml.Common
import ChainApi.Proofs.Yaml.Scalars

/-!
# ChainApi.Proofs.Yaml.Parsing

The tokens of a JSON text make a graph of plain data, whose root denotes the value that
is written.  A list or an object is numbered before its parts, so that these come after
it.

* `Parse.Extends` — nodes are added, and those that are there stay as they are;
* `Parse.run_node` — how a value is read depends on its first token;
* `Parse.adds_node`, `Parse.adds_flowItems`, `Parse.adds_flowMembers` — the nodes that the
  tokens of values, items and members add;
* `Graph.ofTokens?_tokens` — the graph of the tokens of a value.
-/

namespace ChainApi

namespace Yaml.Parse

open Json

variable {r : Reader} {t : Token} {ts rest : List Token} {fuel : Nat} {context : Context}

/-! ## single tokens -/

/-- Is this a token, rather than the place where the text cannot be read on? -/
def isToken : Token → Bool
  | .invalid _ => false
  | _ => true

theorem run_peek (h : r.tokens = t :: ts) (ht : isToken t) : peek.run r = .ok (t, r) := by
  rw [peek, run_bind_of_ok (StateT.run_get r), h]
  cases t <;> first | rfl | cases ht

theorem run_skip (h : r.tokens = t :: ts) : skip.run r = .ok ((), { r with tokens := ts }) := by
  show Except.ok ((), { r with tokens := r.tokens.drop 1 }) = _
  rw [h]
  rfl

theorem run_sees (h : r.tokens = t :: ts) (ht : isToken t) (us : List Token) :
    (sees us).run r = .ok (us.contains t, r) := by
  rw [sees, run_bind_of_ok (run_peek h ht)]
  rfl

theorem run_expect (h : r.tokens = t :: ts) (ht : isToken t) :
    (expect t).run r = .ok ((), { r with tokens := ts }) := by
  rw [expect, run_bind_of_ok (run_peek h ht), if_pos rfl, run_skip h]

theorem isToken_of_startsValue (h : startsValue t) : isToken t := by
  cases t <;> first | rfl | cases h

theorem run_properties (h : r.tokens = t :: ts) (ht : startsValue t) :
    properties.run r = .ok ({}, r) := by
  rw [properties, run_bind_of_ok (run_peek h (isToken_of_startsValue ht))]
  cases t <;> first | rfl | cases ht

/-- How a value is read depends on its first token. -/
theorem run_node (h : r.tokens = t :: ts) (ht : startsValue t) :
    (node context (fuel + 1)).run r = (match t with
      | .scalar text plain =>
        Parse.begin {} (if plain then .ofSpelling text else .str) (.scalar text)
      | .openSequence => do
        let n ← Parse.begin {} .seq (.sequence [])
        complete n (.sequence (← nested (flowItems true fuel)))
      | .openMapping => do
        let n ← Parse.begin {} .map (.mapping [])
        complete n (.mapping (← nested (flowMembers true fuel)))
      | _ => fail).run { r with tokens := ts } := by
  rw [node, run_bind_of_ok (run_peek h (isToken_of_startsValue ht))]
  cases t <;> try cases ht
  all_goals
    simp only
    rw [run_bind_of_ok (run_properties h rfl), run_bind_of_ok (run_peek h rfl)]
    simp only
    rw [run_bind_of_ok (run_skip h)]
    rfl

theorem run_node_scalar {text : String} {plain : Bool}
    (h : r.tokens = .scalar text plain :: rest) :
    (node context (fuel + 1)).run r = .ok (r.nodes.size,
      { r with
        tokens := rest
        nodes := r.nodes.push ⟨if plain then .ofSpelling text else .str, .scalar text⟩ }) :=
  run_node h rfl

theorem run_node_quoted {text : String} (h : r.tokens = .scalar text false :: rest) :
    (node context (fuel + 1)).run r = .ok (r.nodes.size,
      { r with tokens := rest, nodes := r.nodes.push ⟨.str, .scalar text⟩ }) :=
  run_node_scalar h

/-! ## nodes are added -/

/-- Nodes are added, and those that are there stay as they are. -/
structure Extends (nodes nodes' : Nodes) : Prop where
  size_le : nodes.size ≤ nodes'.size
  same : ∀ n, n < nodes.size → nodes'[n]? = nodes[n]?

variable {nodes nodes' nodes'' : Nodes} {n k m : Nat} {v : Value}

theorem Extends.refl (nodes : Nodes) : Extends nodes nodes := ⟨Nat.le_refl _, fun _ _ => rfl⟩

theorem Extends.trans (h : Extends nodes nodes') (h' : Extends nodes' nodes'') :
    Extends nodes nodes'' :=
  ⟨Nat.le_trans h.size_le h'.size_le, fun n hn => by
    rw [h'.same n (Nat.lt_of_lt_of_le hn h.size_le), h.same n hn]⟩

theorem Extends.push (nodes : Nodes) (node : Node) : Extends nodes (nodes.push node) :=
  ⟨by simp, fun n hn => by
    rw [Array.getElem?_push_lt hn, Array.getElem?_eq_getElem hn]⟩

theorem Extends.getElem? (h : Extends nodes nodes') {node : Node}
    (hn : nodes[n]? = some node) : nodes'[n]? = some node := by
  rw [h.same n (Array.getElem?_eq_some_iff.1 hn).1, hn]

theorem Extends.denotes (h : Extends nodes nodes') (hn : Denotes nodes n v) :
    Denotes nodes' n v :=
  hn.congr fun _ _ _ => h.getElem?

/-- A node that was added may still be given its parts. -/
theorem Extends.modify {node : Node} (h : Extends (nodes.push node) nodes') (f : Node → Node) :
    Extends nodes (nodes'.modify nodes.size f) := by
  have hpush := (Extends.push nodes node).trans h
  refine ⟨by simpa using hpush.size_le, fun n hn => ?_⟩
  rw [Array.getElem?_modify, if_neg (Nat.ne_of_gt hn), hpush.same n hn]

theorem Extends.getElem?_modify {node : Node} (h : Extends (nodes.push node) nodes')
    (f : Node → Node) : (nodes'.modify nodes.size f)[nodes.size]? = some (f node) := by
  rw [Array.getElem?_modify, if_pos rfl, h.getElem? Array.getElem?_push_size]
  rfl

/-- Giving a node its parts does not touch the nodes after it. -/
theorem getElem?_modify_of_lt (f : Node → Node) (h : n < m) {node : Node}
    (hm : nodes[m]? = some node) : (nodes.modify n f)[m]? = some node := by
  rw [Array.getElem?_modify, if_neg (Nat.ne_of_lt h), hm]

/-! ## the parts of lists and mappings -/

theorem run_flowItems_close {first : Bool} (h : r.tokens = .closeSequence :: ts) :
    (flowItems first (fuel + 1)).run r = .ok ([], { r with tokens := ts }) := by
  rw [flowItems, run_bind_of_ok (run_sees h rfl _)]
  exact run_bind_of_ok (run_skip h)

/-- The first token of a value is none of the marks between values. -/
theorem contains_of_startsValue {us : List Token} (ht : startsValue t)
    (hus : us.all fun u => !startsValue u) : us.contains t = false := by
  rw [List.contains_eq_any_beq, List.any_eq_false]
  rintro u hu heq
  have hu := List.all_eq_true.1 hus u hu
  rw [← beq_iff_eq.1 heq, ht] at hu
  cases hu

/-- After a comma the parts are read like those at the front. -/
theorem run_flowItems_comma (h : r.tokens = .comma :: t :: ts) (ht : startsValue t) :
    (flowItems false (fuel + 1)).run r =
      (flowItems true (fuel + 1)).run { r with tokens := t :: ts } := by
  rw [flowItems, flowItems, run_bind_of_ok (run_sees h rfl _),
    run_bind_of_ok (run_sees rfl (isToken_of_startsValue ht) _), contains_of_startsValue ht rfl]
  simp only [Bool.not_false, Bool.not_true, if_true, Bool.false_eq_true, if_false]
  rw [if_neg (by decide), run_bind_of_ok (run_expect h rfl)]

theorem run_flowItems_item {r' r'' : Reader} {items : List Nat} (h : r.tokens = t :: ts)
    (ht : startsValue t) (hitem : (node .flow fuel).run r = .ok (n, r'))
    (hitems : (flowItems false fuel).run r' = .ok (items, r'')) :
    (flowItems true (fuel + 1)).run r = .ok (n :: items, r'') := by
  have ht' := isToken_of_startsValue ht
  rw [flowItems, run_bind_of_ok (run_sees h ht' _), contains_of_startsValue ht rfl]
  simp only [Bool.not_true, Bool.false_eq_true, if_false]
  rw [run_bind_of_ok (run_sees h ht' _), contains_of_startsValue ht rfl]
  simp only [Bool.false_eq_true, if_false]
  rw [run_bind_of_ok (run_sees h ht' _), contains_of_startsValue ht rfl]
  simp only [Bool.false_eq_true, if_false]
  rw [run_bind_of_ok hitem, run_bind_of_ok hitems]
  rfl

theorem run_flowMembers_close {first : Bool} (h : r.tokens = .closeMapping :: ts) :
    (flowMembers first (fuel + 1)).run r = .ok ([], { r with tokens := ts }) := by
  rw [flowMembers, run_bind_of_ok (run_sees h rfl _)]
  exact run_bind_of_ok (run_skip h)

theorem run_flowMembers_comma (h : r.tokens = .comma :: .key :: ts) :
    (flowMembers false (fuel + 1)).run r =
      (flowMembers true (fuel + 1)).run { r with tokens := .key :: ts } := by
  rw [flowMembers, flowMembers, run_bind_of_ok (run_sees h rfl _),
    run_bind_of_ok (run_sees rfl rfl _)]
  simp only [Bool.not_false, Bool.not_true, if_true, Bool.false_eq_true, if_false]
  rw [if_neg (by decide), if_neg (by decide), run_bind_of_ok (run_expect h rfl)]

/-- A node that is not left out. -/
theorem run_nodeUnless {stops : List Token} {r' : Reader} (h : r.tokens = t :: ts)
    (ht : startsValue t) (hstops : stops.all fun u => !startsValue u)
    (hnode : (node context fuel).run r = .ok (n, r')) :
    (nodeUnless context stops (fuel + 1)).run r = .ok (n, r') := by
  rw [nodeUnless, run_bind_of_ok (run_sees h (isToken_of_startsValue ht) _),
    contains_of_startsValue ht hstops]
  exact hnode

theorem run_flowMembers_member {r' r'' : Reader} {name : String} {members : List (Nat × Nat)}
    (h : r.tokens = .key :: .scalar name false :: .value :: t :: ts) (ht : startsValue t)
    (hvalue : (node .flow (fuel + 1)).run
      { r with tokens := t :: ts, nodes := r.nodes.push ⟨.str, .scalar name⟩ } = .ok (n, r'))
    (hmembers : (flowMembers false (fuel + 2)).run r' = .ok (members, r'')) :
    (flowMembers true (fuel + 3)).run r = .ok ((r.nodes.size, n) :: members, r'') := by
  have hkey : (nodeUnless .flow [.value, .comma, .closeMapping] (fuel + 2)).run
      { r with tokens := .scalar name false :: .value :: t :: ts } = .ok (r.nodes.size,
        { r with tokens := .value :: t :: ts, nodes := r.nodes.push ⟨.str, .scalar name⟩ }) :=
    run_nodeUnless rfl rfl (by decide) (run_node_quoted rfl)
  rw [flowMembers, run_bind_of_ok (run_sees h rfl _)]
  simp only [Bool.not_true, Bool.false_eq_true, if_false]
  rw [if_neg (by decide), run_bind_of_ok (run_sees h rfl _), if_neg (by decide),
    run_bind_of_ok (run_sees h rfl _), if_pos (by decide), run_bind_of_ok (run_skip h),
    run_bind_of_ok hkey, run_bind_of_ok (run_sees rfl rfl _), if_pos (by decide),
    run_bind_of_ok (run_skip rfl), run_bind_of_ok (run_nodeUnless rfl ht (by decide) hvalue),
    pure_bind, run_bind_of_ok hmembers]
  rfl

/-! ## nodes with parts -/

/-- The nodes that a scalar, a list or a mapping adds: its own comes first. -/
def Adds (x : Parse Nat) (r : Reader) (rest : List Token) (v : Value) : Prop :=
  ∃ nodes, x.run r = .ok (r.nodes.size, { r with tokens := rest, nodes }) ∧
    Extends r.nodes nodes ∧ Denotes nodes r.nodes.size v

/-- Parts are read one level deeper. -/
theorem run_nested {x : Parse α} {a : α} (hdepth : r.depth < maxDepth)
    (h : x.run { r with depth := r.depth + 1 } =
      .ok (a, { r with tokens := ts, nodes, depth := r.depth + 1 })) :
    (nested x).run r = .ok (a, { r with tokens := ts, nodes }) := by
  rw [nested, run_bind_of_ok (StateT.run_get r), if_neg (Nat.not_le.2 hdepth)]
  refine (run_bind_of_ok (t := { r with depth := r.depth + 1 }) (a := ()) rfl).trans ?_
  rw [run_bind_of_ok h]
  rfl

/-- A node is numbered, then its parts are read, and then it is given them. -/
theorem run_parts {x : Parse (List α)} {parts : List α} {tag : Tag}
    {content : List α → Content} (hdepth : r.depth < maxDepth)
    (hx : x.run { r with nodes := r.nodes.push ⟨tag, content []⟩, depth := r.depth + 1 } =
      .ok (parts, { r with tokens := rest, nodes, depth := r.depth + 1 })) :
    (do let n ← Parse.begin {} tag (content []); complete n (content (← x.nested)) :
        Parse Nat).run r =
      .ok (r.nodes.size, { r with
        tokens := rest
        nodes := nodes.modify r.nodes.size fun node =>
          { node with content := content parts } }) := by
  have hbegin : (Parse.begin {} tag (content [])).run r =
      .ok (r.nodes.size, { r with nodes := r.nodes.push ⟨tag, content []⟩ }) := rfl
  have hnested := run_nested (r := { r with nodes := r.nodes.push ⟨tag, content []⟩ }) hdepth hx
  rw [run_bind_of_ok hbegin, run_bind_of_ok hnested]
  rfl

/-- A list denotes what its items do. -/
theorem adds_sequence {items : List Nat} {vs : List Value}
    (h : r.tokens = .openSequence :: ts) (hdepth : r.depth < maxDepth)
    (hitems : (flowItems true fuel).run { r with
        tokens := ts, nodes := r.nodes.push ⟨.seq, .sequence []⟩, depth := r.depth + 1 } =
      .ok (items, { r with tokens := rest, nodes, depth := r.depth + 1 }))
    (hext : Extends (r.nodes.push ⟨.seq, .sequence []⟩) nodes)
    (hparts : DenotesItems nodes r.nodes.size items vs) :
    Adds (node context (fuel + 1)) r rest (.list vs) := by
  refine ⟨_, (run_node h rfl).trans (run_parts hdepth hitems),
    hext.modify fun node => { node with content := .sequence items },
    .list (hext.getElem?_modify _) ?_⟩
  exact hparts.congr fun m hm node => getElem?_modify_of_lt _ hm

/-- A mapping denotes what its members do. -/
theorem adds_mapping {members : List (Nat × Nat)} {ms : List (String × Value)}
    (h : r.tokens = .openMapping :: ts) (hdepth : r.depth < maxDepth)
    (hmembers : (flowMembers true fuel).run { r with
        tokens := ts, nodes := r.nodes.push ⟨.map, .mapping []⟩, depth := r.depth + 1 } =
      .ok (members, { r with tokens := rest, nodes, depth := r.depth + 1 }))
    (hext : Extends (r.nodes.push ⟨.map, .mapping []⟩) nodes)
    (hparts : DenotesMembers nodes r.nodes.size members ms) :
    Adds (node context (fuel + 1)) r rest (.map (Value.writeMembers [] ms)) := by
  refine ⟨_, (run_node h rfl).trans (run_parts hdepth hmembers),
    hext.modify fun node => { node with content := .mapping members },
    .map (hext.getElem?_modify _) ?_⟩
  exact hparts.congr fun m hm node => getElem?_modify_of_lt _ hm

/-! ## values -/

theorem adds_node_scalar {text : String} {plain : Bool} {tag : Tag}
    (h : r.tokens = .scalar text plain :: rest)
    (htag : (if plain then Tag.ofSpelling text else .str) = tag) (hplain : tag.isPlain = true)
    (hreads : Build.readScalar tag text = .ok v) : Adds (node context (fuel + 1)) r rest v := by
  subst htag
  exact ⟨_, run_node_scalar h, Extends.push _ _, .scalar Array.getElem?_push_size hplain hreads⟩

mutual

/-- The tokens of a value add nodes, the first of which denotes it. -/
theorem adds_node (w : Written) (hw : w.Valid) (r : Reader) (rest : List Token)
    (context : Context) (fuel : Nat) (h : r.tokens = w.tokens ++ rest)
    (hfuel : 2 * w.tokens.length ≤ fuel) (hdepth : r.depth + w.depth ≤ maxDepth) :
    Adds (node context fuel) r rest w.value := by
  obtain ⟨fuel, rfl⟩ : ∃ f, fuel = f + 1 := by
    obtain ⟨t, ts, htokens, -⟩ := w.exists_tokens
    rw [htokens, List.length_cons] at hfuel
    exact Nat.exists_eq_add_one.2 (by omega)
  match w with
  | .null | .bool _ | .integer _ _ =>
    have hreads := readScalar_word hw rfl
    exact adds_node_scalar h (if_pos rfl) hreads.1 hreads.2
  | .string pieces => exact adds_node_scalar h (if_neg Bool.false_ne_true) rfl rfl
  | .emptyList _ =>
    obtain ⟨fuel, rfl⟩ : ∃ f, fuel = f + 1 :=
      Nat.exists_eq_add_one.2 (by simp only [Written.tokens, List.length_cons] at hfuel; omega)
    exact adds_sequence h (by simp only [Written.depth] at hdepth; omega)
      (run_flowItems_close rfl) (.refl _) .nil
  | .list items =>
    simp only [Written.tokens, List.length_cons, List.length_append] at hfuel
    simp only [Written.depth] at hdepth
    obtain ⟨ns, nodes, hrun, hext, hparts⟩ := adds_flowItems items hw
      { r with tokens := items.tokens ++ .closeSequence :: rest,
               nodes := r.nodes.push ⟨.seq, .sequence []⟩, depth := r.depth + 1 }
      rest fuel rfl (by omega) (by simp only; omega)
    exact adds_sequence (h.trans (by simp [Written.tokens])) (by omega) hrun hext
      (hparts _ (by simp))
  | .emptyObject _ =>
    obtain ⟨fuel, rfl⟩ : ∃ f, fuel = f + 1 :=
      Nat.exists_eq_add_one.2 (by simp only [Written.tokens, List.length_cons] at hfuel; omega)
    exact adds_mapping h (by simp only [Written.depth] at hdepth; omega)
      (run_flowMembers_close rfl) (.refl _) .nil
  | .object members =>
    simp only [Written.tokens, List.length_cons, List.length_append] at hfuel
    simp only [Written.depth] at hdepth
    obtain ⟨es, nodes, hrun, hext, hparts⟩ := adds_flowMembers members hw
      { r with tokens := members.tokens ++ .closeMapping :: rest,
               nodes := r.nodes.push ⟨.map, .mapping []⟩, depth := r.depth + 1 }
      rest fuel rfl (by omega) (by simp only; omega)
    exact adds_mapping (h.trans (by simp [Written.tokens])) (by omega) hrun hext
      (hparts _ (by simp))

/-- The tokens of items add nodes that denote them. -/
theorem adds_flowItems (items : WrittenItems) (hitems : items.Valid) (r : Reader)
    (rest : List Token) (fuel : Nat) (h : r.tokens = items.tokens ++ .closeSequence :: rest)
    (hfuel : 2 * items.tokens.length + 1 ≤ fuel) (hdepth : r.depth + items.depth ≤ maxDepth) :
    ∃ ns nodes, (flowItems true fuel).run r = .ok (ns, { r with tokens := rest, nodes }) ∧
      Extends r.nodes nodes ∧
      ∀ n < r.nodes.size, DenotesItems nodes n ns items.values := by
  match items with
  | .last _ v _ =>
    obtain ⟨t, ts, htokens, ht⟩ := v.exists_tokens
    simp only [WrittenItems.tokens, htokens, List.length_cons] at hfuel
    obtain ⟨fuel, rfl⟩ : ∃ f, fuel = f + 2 := ⟨fuel - 2, by omega⟩
    obtain ⟨nodes, hrun, hext, hv⟩ := adds_node v hitems.2.1 r (.closeSequence :: rest) .flow
      (fuel + 1) h (by rw [htokens, List.length_cons]; omega) hdepth
    refine ⟨[r.nodes.size], nodes, ?_, hext, fun n hn => .cons hn hv .nil⟩
    exact run_flowItems_item (h.trans (by rw [WrittenItems.tokens, htokens]; rfl)) ht hrun
      (run_flowItems_close rfl)
  | .more _ v _ more =>
    obtain ⟨t, ts, htokens, ht⟩ := v.exists_tokens
    obtain ⟨u, us, hmore, hu⟩ := more.exists_tokens
    simp only [WrittenItems.tokens, List.length_append, List.length_cons] at hfuel
    simp only [WrittenItems.depth] at hdepth
    obtain ⟨fuel, rfl⟩ : ∃ f, fuel = f + 2 := ⟨fuel - 2, by omega⟩
    have h : r.tokens = v.tokens ++ .comma :: (more.tokens ++ .closeSequence :: rest) := by
      simpa [WrittenItems.tokens] using h
    obtain ⟨nodes, hrun, hext, hv⟩ := adds_node v hitems.2.1 r _ .flow (fuel + 1) h (by omega)
      (by omega)
    obtain ⟨ns, nodes', hruns, hexts, hparts⟩ := adds_flowItems more hitems.2.2.2
      { r with tokens := more.tokens ++ .closeSequence :: rest, nodes } rest (fuel + 1) rfl
      (by omega) (by simp only; omega)
    have hcomma : (flowItems false (fuel + 1)).run
        { r with tokens := .comma :: (more.tokens ++ .closeSequence :: rest), nodes } =
        .ok (ns, { r with tokens := rest, nodes := nodes' }) := by
      rw [run_flowItems_comma (by rw [hmore]; rfl) hu, ← hruns, hmore]
      rfl
    refine ⟨r.nodes.size :: ns, nodes',
      run_flowItems_item (h.trans (by rw [htokens]; rfl)) ht hrun hcomma,
      hext.trans hexts, fun n hn => .cons hn (hexts.denotes hv) (hparts n ?_)⟩
    exact Nat.lt_of_lt_of_le hn hext.size_le

theorem adds_flowMembers (members : WrittenMembers) (hmembers : members.Valid) (r : Reader)
    (rest : List Token) (fuel : Nat) (h : r.tokens = members.tokens ++ .closeMapping :: rest)
    (hfuel : 2 * members.tokens.length + 1 ≤ fuel)
    (hdepth : r.depth + members.depth ≤ maxDepth) :
    ∃ es nodes, (flowMembers true fuel).run r = .ok (es, { r with tokens := rest, nodes }) ∧
      Extends r.nodes nodes ∧
      ∀ n < r.nodes.size, DenotesMembers nodes n es members.entries := by
  match members with
  | .last name v _ =>
    obtain ⟨t, ts, htokens, ht⟩ := v.exists_tokens
    simp only [WrittenMembers.tokens, List.length_cons] at hfuel
    obtain ⟨fuel, rfl⟩ : ∃ f, fuel = f + 3 := ⟨fuel - 3, by omega⟩
    obtain ⟨nodes, hrun, hext, hv⟩ := adds_node v hmembers.2.1
      { r with tokens := v.tokens ++ .closeMapping :: rest,
               nodes := r.nodes.push ⟨.str, .scalar (meaning name.pieces)⟩ }
      (.closeMapping :: rest) .flow (fuel + 1) rfl (by omega) hdepth
    rw [htokens] at hrun
    refine ⟨_, nodes, run_flowMembers_member
      (h.trans (by rw [WrittenMembers.tokens, htokens]; rfl)) ht hrun (run_flowMembers_close rfl),
      (Extends.push _ _).trans hext, fun n hn => ?_⟩
    exact .cons (hext.getElem? Array.getElem?_push_size) hn (by simp; omega) hv .nil
  | .more name v _ more =>
    obtain ⟨t, ts, htokens, ht⟩ := v.exists_tokens
    obtain ⟨us, hmore⟩ := more.exists_tokens
    simp only [WrittenMembers.tokens, List.length_append, List.length_cons] at hfuel
    simp only [WrittenMembers.depth] at hdepth
    obtain ⟨fuel, rfl⟩ : ∃ f, fuel = f + 3 := ⟨fuel - 3, by omega⟩
    obtain ⟨nodes, hrun, hext, hv⟩ := adds_node v hmembers.2.1
      { r with tokens := v.tokens ++ .comma :: (more.tokens ++ .closeMapping :: rest),
               nodes := r.nodes.push ⟨.str, .scalar (meaning name.pieces)⟩ }
      _ .flow (fuel + 1) rfl (by omega) (by simp only; omega)
    obtain ⟨es, nodes', hruns, hexts, hparts⟩ := adds_flowMembers more hmembers.2.2.2
      { r with tokens := more.tokens ++ .closeMapping :: rest, nodes } rest (fuel + 2) rfl
      (by omega) (by simp only; omega)
    have hcomma : (flowMembers false (fuel + 2)).run
        { r with tokens := .comma :: (more.tokens ++ .closeMapping :: rest), nodes } =
        .ok (es, { r with tokens := rest, nodes := nodes' }) := by
      rw [run_flowMembers_comma (by rw [hmore]; rfl), ← hruns, hmore]
      rfl
    rw [htokens] at hrun
    refine ⟨_, nodes', run_flowMembers_member
      (h.trans (by simp [WrittenMembers.tokens, htokens])) ht hrun hcomma,
      ((Extends.push _ _).trans hext).trans hexts, fun n hn => ?_⟩
    have hsize := hext.size_le
    simp only [Array.size_push] at hsize
    exact .cons ((hext.trans hexts).getElem? Array.getElem?_push_size) hn (by simp; omega)
      (hexts.denotes hv) (hparts n (by simp only; omega))

end

/-- A text of one value is one document. -/
theorem run_document (h : r.tokens = t :: ts) (ht : startsValue t)
    (hnode : Adds (node .block (fuel + 1)) r [.streamEnd] v) :
    ∃ nodes r', (document (fuel + 1)).run r = .ok (some ⟨nodes, r.nodes.size⟩, r') ∧
      Denotes nodes r.nodes.size v := by
  obtain ⟨nodes, hrun, -, hv⟩ := hnode
  have ht' := isToken_of_startsValue ht
  have hstart : atStart.run r = .ok (false, r) := by
    rw [atStart, run_bind_of_ok (run_peek h ht')]
    cases t <;> first | rfl | cases ht
  refine ⟨nodes, { r with tokens := [.streamEnd], nodes }, ?_, hv⟩
  rw [document, run_bind_of_ok (run_sees h ht' _), contains_of_startsValue ht (by decide)]
  simp only [Bool.false_eq_true, if_false]
  rw [run_bind_of_ok hstart]
  simp only [Bool.false_eq_true, if_false]
  rw [run_bind_of_ok hrun]
  refine (run_bind_of_ok (a := ()) (t := { r with tokens := [.streamEnd], nodes }) ?_).trans ?_
  · rw [skipEnds, run_bind_of_ok (run_sees rfl rfl _)]
    rfl
  · rw [run_bind_of_ok (run_sees rfl rfl _)]
    rfl

end Yaml.Parse

/-- The tokens of a value are those of a graph whose root denotes it. -/
theorem Yaml.Graph.ofTokens?_tokens {w : Json.Written} (hw : w.Valid)
    (hdepth : w.depth ≤ Parse.maxDepth) :
    ∃ g, Graph.ofTokens? (w.tokens ++ [Token.streamEnd]) = .ok (some g) ∧
      Denotes g.nodes g.root w.value := by
  obtain ⟨t, ts, htokens, ht⟩ := w.exists_tokens
  have hnode := Parse.adds_node w hw { tokens := w.tokens ++ [.streamEnd] } [.streamEnd] .block
    (4 * (w.tokens ++ [Token.streamEnd]).length + 4) rfl (by simp; omega) (by simpa using hdepth)
  obtain ⟨nodes, r', hrun, hv⟩ := Parse.run_document
    (r := { tokens := w.tokens ++ [.streamEnd] }) (by rw [htokens]; rfl) ht hnode
  refine ⟨⟨nodes, 0⟩, ?_, hv⟩
  show Prod.fst <$> (Parse.document _).run _ = _
  rw [hrun]
  rfl

end ChainApi
