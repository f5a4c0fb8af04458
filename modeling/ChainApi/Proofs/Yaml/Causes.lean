import ChainApi.Proofs.Yaml.Denotation

/-!
# ChainApi.Proofs.Yaml.Causes

Why the tokens of a YAML text describe nothing.  Either the text is not well formed, or the
failure is caused by something in it: a place where it cannot be read on, a scalar that is
spelled like a number or a date and is none, a tag, or nesting that is too deep.

* `Triple` — what holds before and after a step, with one rule for each way to combine steps;
* `Cause` — what a failure goes back to;
* `Node.Stems` — nodes as the tokens of a text without tags make them;
* `Graph.stems_of_ofTokens?` — reading the tokens makes such nodes, or fails for a cause.
-/

namespace ChainApi.Yaml

/-! ## steps -/

/-- From a state for which `I` holds, a step leads to a result and a state for which `J`
holds, or fails with a fault for which `E` does. -/
def Triple (I : σ → Prop) (E : Fault → Prop) (J : α → σ → Prop)
    (x : StateT σ (Except Fault) α) : Prop :=
  ∀ s, I s → (∀ a s', x.run s = .ok (a, s') → J a s') ∧ ∀ f, x.run s = .error f → E f

namespace Triple

variable {I I' : σ → Prop} {E : Fault → Prop} {J J' : α → σ → Prop} {K : β → σ → Prop}
  {x : StateT σ (Except Fault) α} {f : α → StateT σ (Except Fault) β}

theorem pure {a : α} (h : ∀ s, I s → J a s) : Triple I E J (pure a) := by
  refine fun s hs => ⟨fun b s' hb => ?_, nofun⟩
  cases hb
  exact h s hs

theorem throw {fault : Fault} (h : ∀ s, I s → E fault) : Triple I E J (throw fault) := by
  refine fun s hs => ⟨nofun, fun g hg => ?_⟩
  cases hg
  exact h s hs

theorem lift {x : Except Fault α} (h : ∀ f, x = .error f → E f) :
    Triple I E (fun _ => I) (liftM x : StateT σ (Except Fault) α) := by
  intro s hs
  cases x with
  | error g =>
    refine ⟨nofun, fun g' hg => ?_⟩
    cases hg
    exact h g rfl
  | ok a =>
    refine ⟨fun b s' hb => ?_, nofun⟩
    cases hb
    exact hs

theorem bind (hx : Triple I E J x) (hf : ∀ a, Triple (J a) E K (f a)) :
    Triple I E K (x >>= f) := by
  intro s hs
  obtain ⟨hok, herror⟩ := hx s hs
  rw [StateT.run_bind]
  cases hrun : x.run s with
  | error g =>
    refine ⟨nofun, fun g' hg => ?_⟩
    cases hg
    exact herror g hrun
  | ok r => exact hf r.1 r.2 (hok r.1 r.2 hrun)

/-- What holds before a step may be stronger than it needs. -/
theorem pre (hx : Triple I E J x) (h : ∀ s, I' s → I s) : Triple I' E J x :=
  fun s hs => hx s (h s hs)

theorem post (hx : Triple I E J x) (h : ∀ a s, J a s → J' a s) : Triple I E J' x :=
  fun s hs => ⟨fun a s' ha => h a s' ((hx s hs).1 a s' ha), (hx s hs).2⟩

/-- What a state tells about something else is known from then on. -/
theorem assume {p : Prop} (h : ∀ s, I s → p) (hx : p → Triple I E J x) : Triple I E J x :=
  fun s hs => hx (h s hs) s hs

/-- A step that goes on with the state may know which one it is. -/
theorem get_bind_known {f : σ → StateT σ (Except Fault) β}
    (h : ∀ s, I s → Triple (fun s' => s' = s) E K (f s)) : Triple I E K (get >>= f) :=
  fun s hs => h s hs s rfl

theorem get_bind {f : σ → StateT σ (Except Fault) β} (h : ∀ s, I s → Triple I E K (f s)) :
    Triple I E K (get >>= f) :=
  get_bind_known fun s hs => (h s hs).pre fun _ heq => heq ▸ hs

theorem modify {L : PUnit → σ → Prop} {g : σ → σ} (h : ∀ s, I s → L ⟨⟩ (g s)) :
    Triple I E L (modify g) := by
  refine fun s hs => ⟨fun b s' hb => ?_, nofun⟩
  cases hb
  exact h s hs

theorem modifyGet {g : σ → α × σ} (h : ∀ s, I s → J (g s).1 (g s).2) :
    Triple I E J (modifyGet g) := by
  refine fun s hs => ⟨fun b s' hb => ?_, nofun⟩
  have hg := h s hs
  rwa [Except.ok.inj hb] at hg

theorem ite {c : Prop} [Decidable c] {x y : StateT σ (Except Fault) α}
    (hx : c → Triple I E J x) (hy : ¬ c → Triple I E J y) :
    Triple I E J (if c then x else y) := by
  split
  · exact hx ‹_›
  · exact hy ‹_›

theorem mapM {P : β → Prop} {l : List α} (hf : ∀ a ∈ l, Triple I E (fun b s => P b ∧ I s) (f a)) :
    Triple I E (fun bs s => (∀ b ∈ bs, P b) ∧ I s) (l.mapM f) := by
  induction l with
  | nil => exact .pure fun _ hs => ⟨List.forall_mem_nil _, hs⟩
  | cons a l ih =>
    obtain ⟨ha, hl⟩ := List.forall_mem_cons.1 hf
    rw [List.mapM_cons]
    refine ha.bind fun b => .assume (fun _ hs => hs.1) fun hb => ?_
    refine ((ih hl).pre fun _ hs => hs.2).bind fun bs => .pure fun _ hs => ?_
    exact ⟨List.forall_mem_cons.2 ⟨hb, hs.1⟩, hs.2⟩

end Triple

/-! ## causes -/

/-- Does a collection with an end of its own start with this token? -/
def Token.opens : Token → Bool
  | .blockSequence | .blockMapping | .openSequence | .openMapping => true
  | _ => false

/-- Does such a collection end with this token? -/
def Token.closes : Token → Bool
  | .blockEnd | .closeSequence | .closeMapping => true
  | _ => false

/-- What may cause a failure, given the tokens of a text. -/
inductive Cause (tokens : List Token) : Fault → Prop where
  | malformed : Cause tokens .malformed
  /-- The text cannot be read on. -/
  | unreadable {f : Fault} (h : .invalid f ∈ tokens) : Cause tokens f
  /-- A scalar is spelled like something that it is not. -/
  | spelling {f : Fault} {text : String} (h : .scalar text true ∈ tokens)
      (hread : Build.readScalar (.ofSpelling text) text = .error f) : Cause tokens f
  /-- A tag may ask for anything. -/
  | tagged {f : Fault} {handle : Option String} {suffix : String}
      (h : .tag handle suffix ∈ tokens) : Cause tokens f
  /-- So many collections are open at once.  One without an end of its own may stand in
  each of them. -/
  | tooDeep {front : List Token} {opened : Nat} (h : front <+: tokens)
      (hopened : front.countP Token.opens = front.countP Token.closes + opened)
      (hdeep : Parse.maxDepth ≤ 2 * opened) : Cause tokens .endless

/-- The nodes that the tokens of a text make if there are no tags among them. -/
inductive Node.Stems (tokens : List Token) : Node → Prop where
  | blank : Stems tokens .blank
  | quoted (text : String) : Stems tokens ⟨.str, .scalar text⟩
  | plain {text : String} (h : .scalar text true ∈ tokens) :
      Stems tokens ⟨.ofSpelling text, .scalar text⟩
  | sequence (items : List Nat) : Stems tokens ⟨.seq, .sequence items⟩
  | mapping (es : List (Nat × Nat)) : Stems tokens ⟨.map, .mapping es⟩

/-- All nodes of a graph are such nodes. -/
def Graph.Stems (tokens : List Token) (g : Graph) : Prop :=
  ∀ (n : Nat) (node : Node), g.nodes[n]? = some node → node.Stems tokens

namespace Parse

/-! ## steps of reading -/

/-- What holds while the tokens of a text without tags are read: the tokens in front open
`opened` collections that they do not close, the parts of `depth` collections are being
read, and some nodes have tags that are known. -/
structure Reading (tokens : List Token) (known : List (Nat × Tag)) (depth opened : Nat)
    (r : Reader) : Prop where
  untagged : ∀ handle suffix, .tag handle suffix ∉ tokens
  front : ∃ front, front ++ r.tokens = tokens ∧
    front.countP Token.opens = front.countP Token.closes + opened
  depth_eq : r.depth = depth
  stems : ∀ (n : Nat) (node : Node), r.nodes[n]? = some node → node.Stems tokens
  tags : ∀ o ∈ known, (r.nodes[o.1]?).map Node.tag = some o.2

/-- The same, in front of a token. -/
def Facing (tokens : List Token) (known : List (Nat × Tag)) (depth opened : Nat) (t : Token)
    (r : Reader) : Prop :=
  Reading tokens known depth opened r ∧ r.tokens.head? = some t

variable {tokens : List Token} {known : List (Nat × Tag)} {depth opened opened' : Nat}
  {r : Reader} {t : Token}

theorem Reading.mem (h : Reading tokens known depth opened r) (ht : t ∈ r.tokens) :
    t ∈ tokens := by
  obtain ⟨front, htokens, -⟩ := h.front
  rw [← htokens]
  exact List.mem_append_right front ht

/-- A step of reading goes on as it should, or fails for a cause. -/
abbrev Goes (tokens : List Token) (known : List (Nat × Tag)) (depth opened opened' : Nat)
    (x : Parse α) : Prop :=
  Triple (Reading tokens known depth opened) (Cause tokens)
    (fun _ => Reading tokens known depth opened') x

theorem goes_fail {I : Reader → Prop} {J : α → Reader → Prop} :
    Triple I (Cause tokens) J fail := .throw fun _ _ => .malformed

/-- The next token is one of the text, and no tag. -/
theorem goes_peek : Triple (Reading tokens known depth opened) (Cause tokens)
    (fun t r => (t ∈ tokens ∧ ∀ handle suffix, t ≠ .tag handle suffix) ∧
      Facing tokens known depth opened t r) peek := by
  rw [peek]
  refine .get_bind_known fun r hr => ?_
  split
  · exact .throw fun _ _ => .malformed
  · next fault ts htokens =>
    exact .throw fun _ _ => .unreadable (hr.mem (htokens ▸ List.mem_cons_self))
  · next t ts _ htokens =>
    have ht : t ∈ tokens := hr.mem (htokens ▸ List.mem_cons_self)
    have htag : ∀ handle suffix, t ≠ .tag handle suffix := fun handle suffix heq =>
      hr.untagged handle suffix (heq ▸ ht)
    exact .pure fun r' heq => ⟨⟨ht, htag⟩, heq ▸ ⟨hr, by rw [htokens, List.head?_cons]⟩⟩

theorem goes_peek_bind {f : Token → Parse α} {J : α → Reader → Prop}
    (h : ∀ t ∈ tokens, (∀ handle suffix, t ≠ .tag handle suffix) →
      Triple (Facing tokens known depth opened t) (Cause tokens) J (f t)) :
    Triple (Reading tokens known depth opened) (Cause tokens) J (peek >>= f) :=
  goes_peek.bind fun t => .assume (fun _ hr => hr.1) fun ⟨ht, htag⟩ =>
    (h t ht htag).pre fun _ hr => hr.2

/-- Moving over a token counts what it opens or closes. -/
theorem goes_skip (h : opened' + t.closes.toNat = opened + t.opens.toNat) :
    Triple (Facing tokens known depth opened t) (Cause tokens)
      (fun _ => Reading tokens known depth opened') skip := by
  refine .modify fun r hr => ?_
  obtain ⟨hr, hhead⟩ := hr
  obtain ⟨ts, hts⟩ := List.head?_eq_some_iff.1 hhead
  obtain ⟨front, htokens, hopened⟩ := hr.front
  refine ⟨hr.untagged, ⟨front ++ [t], ?_, ?_⟩, hr.depth_eq, hr.stems, hr.tags⟩
  · rw [← htokens, hts, List.append_assoc]
    rfl
  · have hcount (p : Token → Bool) : List.countP p [t] = (p t).toNat := by
      cases hp : p t <;> simp [hp]
    rw [List.countP_append, List.countP_append, hcount, hcount, hopened]
    omega

theorem goes_skip_bind {f : Unit → Parse α} {J : α → Reader → Prop}
    (hx : Triple (Reading tokens known depth opened') (Cause tokens) J (f ()))
    (h : opened' + t.closes.toNat = opened + t.opens.toNat := by rfl) :
    Triple (Facing tokens known depth opened t) (Cause tokens) J (skip >>= f) :=
  (goes_skip h).bind fun _ => hx

theorem goes_sees (ts : List Token) : Goes tokens known depth opened opened (sees ts) :=
  goes_peek_bind fun _ _ _ => .pure fun _ hr => hr.1

/-- A choice by the next token. -/
theorem goes_ifSees {ts : List Token} {x y : Parse α} {J : α → Reader → Prop}
    (hx : ∀ t ∈ ts, Triple (Facing tokens known depth opened t) (Cause tokens) J x)
    (hy : Triple (Reading tokens known depth opened) (Cause tokens) J y) :
    Triple (Reading tokens known depth opened) (Cause tokens) J
      (do if ← sees ts then x else y) := by
  rw [sees, bind_assoc]
  refine goes_peek_bind fun t _ _ => ?_
  rw [pure_bind]
  exact .ite (fun ht => hx t (by simpa using ht)) fun _ => hy.pre fun _ hr => hr.1

theorem goes_ifNext {x y : Parse α} {J : α → Reader → Prop}
    (hx : Triple (Facing tokens known depth opened t) (Cause tokens) J x)
    (hy : Triple (Reading tokens known depth opened) (Cause tokens) J y) :
    Triple (Reading tokens known depth opened) (Cause tokens) J
      (do if ← sees [t] then x else y) :=
  goes_ifSees (List.forall_mem_singleton.2 hx) hy

theorem goes_expect (t : Token) (h : opened' + t.closes.toNat = opened + t.opens.toNat := by rfl) :
    Goes tokens known depth opened opened' (expect t) :=
  goes_peek_bind fun _ _ _ => .ite (fun ht => ht ▸ goes_skip h) fun _ => goes_fail

/-! ## nodes -/

variable {tag : Tag} {content : Content}

theorem Reading.push (h : Reading tokens known depth opened r)
    (hstems : Node.Stems tokens ⟨tag, content⟩) :
    Reading tokens ((r.nodes.size, tag) :: known) depth opened
      { r with nodes := r.nodes.push ⟨tag, content⟩ } := by
  refine ⟨h.untagged, h.front, h.depth_eq, fun n node hnode => ?_,
    List.forall_mem_cons.2 ⟨by simp, fun o ho => ?_⟩⟩
  · rw [Array.getElem?_push] at hnode
    split at hnode
    · cases hnode
      exact hstems
    · exact h.stems n node hnode
  · have htag := h.tags o ho
    obtain ⟨node, hnode, -⟩ := Option.map_eq_some_iff.1 htag
    have hlt := (Array.getElem?_eq_some_iff.1 hnode).1
    rwa [Array.getElem?_push_lt hlt, ← Array.getElem?_eq_getElem hlt]

theorem Reading.forget {o : Nat × Tag} (h : Reading tokens (o :: known) depth opened r) :
    Reading tokens known depth opened r :=
  ⟨h.untagged, h.front, h.depth_eq, h.stems, fun o' ho' => h.tags o' (List.mem_cons_of_mem _ ho')⟩

theorem number_triple (hstems : Node.Stems tokens ⟨tag, content⟩) :
    Triple (Reading tokens known depth opened) (Cause tokens)
      (fun n => Reading tokens ((n, tag) :: known) depth opened) (number ⟨tag, content⟩) :=
  .modifyGet fun _ hr => hr.push hstems

theorem goes_number (hstems : Node.Stems tokens ⟨tag, content⟩) :
    Goes tokens known depth opened opened (number ⟨tag, content⟩) :=
  (number_triple hstems).post fun _ _ hr => hr.forget

/-- A node that is begun has the tag that it is given. -/
theorem begin_triple {p : Properties} (hstems : Node.Stems tokens ⟨tag, content⟩) :
    Triple (Reading tokens known depth opened) (Cause tokens)
      (fun n => Reading tokens ((n, tag) :: known) depth opened)
      (Parse.begin p tag content) := by
  rw [Parse.begin]
  split
  · exact number_triple hstems
  · refine .get_bind fun _ _ => .ite (fun _ => goes_fail) fun _ => ?_
    refine (number_triple hstems).bind fun n => ?_
    refine .bind (J := fun _ => Reading tokens ((n, tag) :: known) depth opened) ?_ fun _ =>
      .pure fun _ hr => hr
    exact .modify fun _ hr => ⟨hr.untagged, hr.front, hr.depth_eq, hr.stems, hr.tags⟩

theorem goes_begin {p : Properties} (hstems : Node.Stems tokens ⟨tag, content⟩) :
    Goes tokens known depth opened opened (Parse.begin p tag content) :=
  (begin_triple hstems).post fun _ _ hr => hr.forget

theorem goes_nested {parts : Parse α} (hdepth : depth ≤ 2 * opened)
    (h : Goes tokens known (depth + 1) opened opened' parts) :
    Goes tokens known depth opened opened' (nested parts) := by
  refine .get_bind fun r hr => .ite (fun hdeep => ?_) fun _ => ?_
  · refine .bind (J := fun _ _ => False) (.throw fun _ _ => ?_) fun _ => fun _ h => h.elim
    obtain ⟨front, htokens, hopened⟩ := hr.front
    exact .tooDeep ⟨r.tokens, htokens⟩ hopened (Nat.le_trans hdeep (hr.depth_eq ▸ hdepth))
  · refine .bind (J := fun _ => Reading tokens known (depth + 1) opened) ?_ fun _ => ?_
    · refine .modify fun _ hr => ⟨hr.untagged, hr.front, ?_, hr.stems, hr.tags⟩
      rw [hr.depth_eq]
    refine h.bind fun a => ?_
    refine .bind (J := fun _ => Reading tokens known depth opened') ?_ fun _ => .pure fun _ h => h
    refine .modify fun _ hr => ⟨hr.untagged, hr.front, ?_, hr.stems, hr.tags⟩
    rw [hr.depth_eq, Nat.add_sub_cancel]

/-- A node whose tag is known is given its parts. -/
theorem Reading.complete {n : Nat} (h : Reading tokens ((n, tag) :: known) depth opened r)
    (hstems : Node.Stems tokens ⟨tag, content⟩) :
    Reading tokens known depth opened
      { r with nodes := r.nodes.modify n fun node => { node with content } } := by
  have htag (m : Nat) : ((r.nodes.modify n fun node => { node with content })[m]?).map Node.tag =
      (r.nodes[m]?).map Node.tag := by
    rw [Array.getElem?_modify]
    split
    · rw [Option.map_map]
      rfl
    · rfl
  refine ⟨h.untagged, h.front, h.depth_eq, fun m node hnode => ?_, fun o ho => ?_⟩
  · rw [Array.getElem?_modify] at hnode
    split at hnode
    · next heq =>
      subst heq
      obtain ⟨node', hnode', rfl⟩ := Option.map_eq_some_iff.1 hnode
      have hknown := h.tags (n, tag) List.mem_cons_self
      rw [hnode'] at hknown
      obtain rfl : node'.tag = tag := Option.some.inj hknown
      exact hstems
    · exact h.stems m node hnode
  · rw [htag]
    exact h.tags o (List.mem_cons_of_mem _ ho)

/-- A sequence or a mapping is numbered before its parts, and gets them when they are read. -/
theorem goes_collection {p : Properties} {content : List α → Content} {parts : Parse (List α)}
    (hdepth : depth ≤ 2 * opened) (hstems : ∀ xs, Node.Stems tokens ⟨tag, content xs⟩)
    (hparts : ∀ known, Goes tokens known (depth + 1) opened opened' parts) :
    Goes tokens known depth opened opened' (do
      let n ← Parse.begin p tag (content [])
      complete n (content (← nested parts))) := by
  refine (begin_triple (hstems [])).bind fun n => (goes_nested hdepth (hparts _)).bind fun xs => ?_
  exact .bind (.modify fun _ hr => hr.complete (hstems xs)) fun _ => .pure fun _ hr => hr

/-! ## nodes without tags -/

theorem goes_blank : Goes tokens known depth opened opened blank := goes_number .blank

theorem goes_resolveAlias (name : String) :
    Goes tokens known depth opened opened (resolveAlias name) := by
  refine .get_bind fun _ _ => ?_
  split
  · exact .pure fun _ hr => hr
  · exact goes_fail

theorem goes_properties : Triple (Reading tokens known depth opened) (Cause tokens)
    (fun p r => p.tag = none ∧ Reading tokens known depth opened r) properties := by
  refine goes_peek_bind fun t _ htag => ?_
  split
  · refine goes_skip_bind (goes_peek_bind fun t _ htag => ?_)
    split
    · exact absurd rfl (htag _ _)
    · exact .pure fun _ hr => ⟨rfl, hr.1⟩
  · exact absurd rfl (htag _ _)
  · exact .pure fun _ hr => ⟨rfl, hr.1⟩

theorem goes_empty {p : Properties} (hp : p.tag = none) :
    Goes tokens known depth opened opened (empty p) := by
  rw [empty.eq_def]
  refine .ite (fun _ => goes_fail) fun _ => goes_begin ?_
  rw [Properties.scalarTag, hp]
  exact .blank

theorem goes_sequence {p : Properties} {items : Parse (List Nat)} (hp : p.tag = none)
    (hdepth : depth ≤ 2 * opened)
    (h : ∀ known, Goes tokens known (depth + 1) opened opened' items) :
    Goes tokens known depth opened opened' (do
      let n ← Parse.begin p (p.collectionTag .seq) (.sequence [])
      complete n (.sequence (← nested items))) := by
  rw [Properties.collectionTag, hp]
  exact goes_collection hdepth .sequence h

theorem goes_mapping {p : Properties} {entries : Parse (List (Nat × Nat))} (hp : p.tag = none)
    (hdepth : depth ≤ 2 * opened)
    (h : ∀ known, Goes tokens known (depth + 1) opened opened' entries) :
    Goes tokens known depth opened opened' (do
      let n ← Parse.begin p (p.collectionTag .map) (.mapping [])
      complete n (.mapping (← nested entries))) := by
  rw [Properties.collectionTag, hp]
  exact goes_collection hdepth .mapping h

/-- A comma stands in front of all parts but the first. -/
theorem goes_separated {first : Bool} {parts : Parse α}
    (h : Goes tokens known depth opened opened' parts) :
    Goes tokens known depth opened opened' (do
      if !first then expect .comma
      parts) :=
  .ite (fun _ => (goes_expect .comma).bind fun _ => h) fun _ => h

mutual

/-- A node leaves no collection open.  In a block mapping, which is open, it may be a
sequence without an end of its own. -/
theorem goes_node {known : List (Nat × Tag)} {depth opened : Nat} (context : Context)
    (fuel : Nat) (hdepth : depth + (if context = .member then 1 else 0) ≤ 2 * opened) :
    Goes tokens known depth opened opened (node context fuel) := by
  match fuel with
  | 0 => exact goes_fail
  | fuel + 1 =>
    rw [node.eq_def]
    refine goes_peek_bind fun t ht htag => ?_
    split
    · exact goes_skip_bind (goes_resolveAlias _)
    refine (goes_properties.pre fun _ hr => hr.1).bind fun p => ?_
    refine .assume (fun _ hr => hr.1) fun hp => ?_
    refine .pre (I := Reading tokens known depth opened) ?_ fun _ hr => hr.2
    refine goes_peek_bind fun t ht _ => ?_
    have hempty {t : Token} : Triple (Facing tokens known depth opened t) (Cause tokens)
        (fun _ => Reading tokens known depth opened) (empty p) :=
      (goes_empty hp).pre fun _ hr => hr.1
    split
    · refine .ite (fun hmember => ?_) fun _ => hempty
      rw [if_pos hmember] at hdepth
      exact (goes_sequence hp (by omega) fun _ => goes_looseItems fuel (by omega)).pre
        fun _ hr => hr.1
    · next text plain _ =>
      refine goes_skip_bind (goes_begin ?_)
      rw [Properties.scalarTag, hp]
      cases plain with
      | false => exact .quoted text
      | true => exact .plain ht
    · exact goes_skip_bind (goes_sequence hp (by omega) fun _ =>
        goes_flowItems true fuel (by omega))
    · exact goes_skip_bind (goes_mapping hp (by omega) fun _ =>
        goes_flowMembers true fuel (by omega))
    · refine .ite (fun _ => hempty) fun _ => ?_
      exact goes_skip_bind (goes_sequence hp (by omega) fun _ =>
        goes_blockItems fuel (by omega))
    · refine .ite (fun _ => hempty) fun _ => ?_
      exact goes_skip_bind (goes_mapping hp (by omega) fun _ =>
        goes_blockMembers fuel (by omega))
    · exact hempty
termination_by structural fuel

theorem goes_nodeUnless {known : List (Nat × Tag)} {depth opened : Nat} (context : Context)
    (stops : List Token) (fuel : Nat)
    (hdepth : depth + (if context = .member then 1 else 0) ≤ 2 * opened) :
    Goes tokens known depth opened opened (nodeUnless context stops fuel) := by
  match fuel with
  | 0 => exact goes_fail
  | fuel + 1 =>
    rw [nodeUnless.eq_def]
    exact goes_ifSees (fun t _ => goes_blank.pre fun _ hr => hr.1) (goes_node context fuel hdepth)
termination_by structural fuel

/-- The items of a block sequence end with the block. -/
theorem goes_blockItems {known : List (Nat × Tag)} {depth opened : Nat} (fuel : Nat)
    (hdepth : depth ≤ 2 * (opened + 1)) :
    Goes tokens known depth (opened + 1) opened (blockItems fuel) := by
  match fuel with
  | 0 => exact goes_fail
  | fuel + 1 =>
    rw [blockItems.eq_def]
    refine goes_ifNext (goes_skip_bind ?_)
      ((goes_expect .blockEnd).bind fun _ => .pure fun _ hr => hr)
    exact (goes_nodeUnless .block _ fuel hdepth).bind fun _ =>
      (goes_blockItems fuel hdepth).bind fun _ => .pure fun _ hr => hr
termination_by structural fuel

theorem goes_looseItems {known : List (Nat × Tag)} {depth opened : Nat} (fuel : Nat)
    (hdepth : depth ≤ 2 * opened) :
    Goes tokens known depth opened opened (looseItems fuel) := by
  match fuel with
  | 0 => exact goes_fail
  | fuel + 1 =>
    rw [looseItems.eq_def]
    refine goes_ifNext (goes_skip_bind ?_) (.pure fun _ hr => hr)
    exact (goes_nodeUnless .block _ fuel hdepth).bind fun _ =>
      (goes_looseItems fuel hdepth).bind fun _ => .pure fun _ hr => hr
termination_by structural fuel

theorem goes_blockMembers {known : List (Nat × Tag)} {depth opened : Nat} (fuel : Nat)
    (hdepth : depth + 1 ≤ 2 * (opened + 1)) :
    Goes tokens known depth (opened + 1) opened (blockMembers fuel) := by
  match fuel with
  | 0 => exact goes_fail
  | fuel + 1 =>
    have hrest (k v : Nat) : Goes tokens known depth (opened + 1) opened (do
        let rest ← blockMembers fuel
        return (k, v) :: rest) :=
      (goes_blockMembers fuel hdepth).bind fun _ => .pure fun _ hr => hr
    rw [blockMembers.eq_def]
    refine goes_ifNext (goes_skip_bind (.pure fun _ hr => hr)) ?_
    refine (goes_expect .key).bind fun _ => (goes_nodeUnless .member _ fuel hdepth).bind fun k => ?_
    refine goes_ifNext (goes_skip_bind ?_) (goes_blank.bind fun v => hrest k v)
    exact (goes_nodeUnless .member _ fuel hdepth).bind fun v => hrest k v
termination_by structural fuel

theorem goes_flowItems {known : List (Nat × Tag)} {depth opened : Nat} (first : Bool)
    (fuel : Nat) (hdepth : depth + 1 ≤ 2 * (opened + 1)) :
    Goes tokens known depth (opened + 1) opened (flowItems first fuel) := by
  match fuel with
  | 0 => exact goes_fail
  | fuel + 1 =>
    have hrest (item : Nat) : Goes tokens known depth (opened + 1) opened (do
        let rest ← flowItems false fuel
        return item :: rest) :=
      (goes_flowItems false fuel hdepth).bind fun _ => .pure fun _ hr => hr
    have hend : Triple (Facing tokens known depth (opened + 1) .closeSequence) (Cause tokens)
        (fun _ => Reading tokens known depth opened) (do
          skip
          return ([] : List Nat)) :=
      goes_skip_bind (.pure fun _ hr => hr)
    rw [flowItems.eq_def]
    refine goes_ifNext hend (goes_separated (goes_ifNext hend ?_))
    refine goes_ifNext (goes_skip_bind ?_) ?_
    · refine (goes_nested (by omega) (goes_flowPair fuel hdepth)).bind fun member => ?_
      exact (goes_number (.mapping [member])).bind fun item => hrest item
    · exact (goes_node .flow fuel (Nat.le_of_succ_le hdepth)).bind fun item => hrest item
termination_by structural fuel

theorem goes_flowPair {known : List (Nat × Tag)} {depth opened : Nat} (fuel : Nat)
    (hdepth : depth ≤ 2 * opened) :
    Goes tokens known depth opened opened (flowPair fuel) := by
  match fuel with
  | 0 => exact goes_fail
  | fuel + 1 =>
    rw [flowPair.eq_def]
    refine (goes_nodeUnless .flow _ fuel hdepth).bind fun k => ?_
    refine goes_ifNext (goes_skip_bind ?_) (goes_blank.bind fun v => .pure fun _ hr => hr)
    exact (goes_nodeUnless .flow _ fuel hdepth).bind fun v => .pure fun _ hr => hr
termination_by structural fuel

theorem goes_flowMembers {known : List (Nat × Tag)} {depth opened : Nat} (first : Bool)
    (fuel : Nat) (hdepth : depth ≤ 2 * (opened + 1)) :
    Goes tokens known depth (opened + 1) opened (flowMembers first fuel) := by
  match fuel with
  | 0 => exact goes_fail
  | fuel + 1 =>
    have hrest (member : Nat × Nat) : Goes tokens known depth (opened + 1) opened (do
        let rest ← flowMembers false fuel
        return member :: rest) :=
      (goes_flowMembers false fuel hdepth).bind fun _ => .pure fun _ hr => hr
    have hend : Triple (Facing tokens known depth (opened + 1) .closeMapping) (Cause tokens)
        (fun _ => Reading tokens known depth opened) (do
          skip
          return ([] : List (Nat × Nat))) :=
      goes_skip_bind (.pure fun _ hr => hr)
    rw [flowMembers.eq_def]
    refine goes_ifNext hend (goes_separated (goes_ifNext hend ?_))
    refine goes_ifNext (goes_skip_bind ?_) ?_
    · refine (goes_nodeUnless .flow _ fuel hdepth).bind fun k => ?_
      refine goes_ifNext (goes_skip_bind ?_) (goes_blank.bind fun v => hrest (k, v))
      exact (goes_nodeUnless .flow _ fuel hdepth).bind fun v => hrest (k, v)
    · exact (goes_node .flow fuel hdepth).bind fun k => goes_blank.bind fun v => hrest (k, v)
termination_by structural fuel

end

/-! ## documents -/

theorem goes_directives (fuel : Nat) (versionSeen : Bool) (handles : List (String × String)) :
    Goes tokens known depth opened opened (directives fuel versionSeen handles) := by
  induction fuel generalizing versionSeen handles with
  | zero => exact goes_fail
  | succ fuel ih =>
    rw [directives.eq_def]
    refine goes_peek_bind fun t _ _ => ?_
    split
    · exact goes_skip_bind (.ite (fun _ => goes_fail) fun _ => ih true handles)
    · exact goes_skip_bind (.ite (fun _ => goes_fail) fun _ => ih versionSeen _)
    · exact goes_skip_bind (ih versionSeen handles)
    · exact .modify fun _ hr =>
        ⟨hr.1.untagged, hr.1.front, hr.1.depth_eq, hr.1.stems, hr.1.tags⟩

theorem goes_atStart : Goes tokens known depth opened opened atStart := by
  refine goes_peek_bind fun t _ _ => ?_
  split <;> exact .pure fun _ hr => hr.1

theorem goes_atBoundary : Goes tokens known depth opened opened atBoundary :=
  goes_atStart.bind fun _ => .ite (fun _ => .pure fun _ hr => hr) fun _ => goes_sees _

theorem goes_skipEnds (fuel : Nat) : Goes tokens known depth opened opened (skipEnds fuel) := by
  induction fuel with
  | zero => exact goes_fail
  | succ fuel ih =>
    rw [skipEnds]
    exact goes_ifNext (goes_skip_bind ih) (.pure fun _ hr => hr)

theorem document_triple (fuel : Nat) : Triple (Reading tokens known 0 0) (Cause tokens)
    (fun (g? : Option Graph) _ => ∀ g ∈ g?, g.Stems tokens) (document fuel) := by
  have hend (root : Nat) : Triple (Reading tokens known 0 0) (Cause tokens)
      (fun (g? : Option Graph) _ => ∀ g ∈ g?, g.Stems tokens) (do
        skipEnds fuel
        if ← sees [.streamEnd] then return some ⟨(← get).nodes, root⟩
        else
          directives fuel false []
          fail) := by
    refine (goes_skipEnds fuel).bind fun _ => goes_ifNext (.get_bind fun r hr => ?_) ?_
    · refine .pure fun _ _ g hg => ?_
      cases hg
      exact hr.1.stems
    · exact (goes_directives fuel _ _).bind fun _ => goes_fail
  rw [document]
  refine goes_ifNext (.pure fun _ _ => nofun) ?_
  refine goes_atStart.bind fun _ => .ite (fun _ => ?_) fun _ => ?_
  · refine (goes_directives fuel _ _).bind fun _ => (goes_expect .documentStart).bind fun _ => ?_
    refine goes_atBoundary.bind fun _ => .ite (fun _ => ?_) fun _ => ?_
    · exact goes_blank.bind fun root => hend root
    · exact (goes_node .block fuel (Nat.zero_le _)).bind fun root => hend root
  · exact (goes_node .block fuel (Nat.zero_le _)).bind fun root => hend root

end Parse

/-- Tokens without tags make nodes of which each goes back to a token, or fail for a cause. -/
theorem Graph.stems_of_ofTokens? {tokens : List Token}
    (htags : ∀ handle suffix, .tag handle suffix ∉ tokens) :
    (∀ g, Graph.ofTokens? tokens = .ok (some g) → g.Stems tokens) ∧
    ∀ f, Graph.ofTokens? tokens = .error f → Cause tokens f := by
  have hstart : Parse.Reading tokens [] 0 0 { tokens } :=
    ⟨htags, ⟨[], rfl, rfl⟩, rfl, by simp, nofun⟩
  obtain ⟨hok, herror⟩ := Parse.document_triple (4 * tokens.length + 4) { tokens } hstart
  rw [Graph.ofTokens?, StateT.run'_eq]
  cases hrun : (Parse.document (4 * tokens.length + 4)).run { tokens } with
  | error f =>
    refine ⟨nofun, fun f' hf => ?_⟩
    cases hf
    exact herror f hrun
  | ok result => exact ⟨fun g hg => hok _ _ hrun g (Except.ok.inj hg), nofun⟩

end ChainApi.Yaml
