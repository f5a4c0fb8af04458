import ChainApi.Proofs.Yaml.Building
import ChainApi.Proofs.Yaml.Merging

/-!
# ChainApi.Proofs.Yaml.Breakdowns

Why a YAML text denotes nothing.  Once its tokens are read into nodes, all that can still
fail in a text without tags is a list or a mapping in the place of something else, which is
malformed, and a scalar that is spelled like something that it is not.

* `Build.Builds` — building keeps the nodes such as the tokens make them;
* `Yaml.cause_of_parse` — every failure goes back to a cause in the tokens of the text;
* `Yaml.Sober` — tokens that hold no such cause.
-/

namespace ChainApi.Yaml

variable {tokens : List Token}

/-- What a scalar among such nodes is read as, unless it is misspelled. -/
theorem Node.Stems.scalar {node : Node} (h : node.Stems tokens)
    (htag : Build.isScalarTag node.tag = true) :
    ∃ text, node.content = .scalar text ∧
      ∀ f, Build.readScalar node.tag text = .error f → Cause tokens f := by
  cases h with
  | blank => exact ⟨"", rfl, nofun⟩
  | quoted text => exact ⟨text, rfl, nofun⟩
  | plain hmem => exact ⟨_, rfl, fun _ => .spelling hmem⟩
  | sequence items => cases htag
  | mapping es => cases htag

theorem Node.stable_stems : Build.Stable (Node.Stems tokens) where
  entries es' h := by
    cases h
    exact .mapping es'
  unmark {content} h := by
    generalize hnode : (⟨.value, content⟩ : Node) = node at h
    cases h with
    | blank => cases hnode
    | quoted text => cases hnode
    | @plain text hmem =>
      obtain rfl : content = .scalar text := congrArg Node.content hnode
      exact .quoted text
    | sequence items => cases hnode
    | mapping es => cases hnode

namespace Build

variable {start : Nodes} {bound left n : Nat}

/-- A step of building keeps the nodes such as the tokens make them, or fails for a cause. -/
abbrev Builds (tokens : List Token) (start : Nodes) (bound left : Nat) (x : Building α) : Prop :=
  Triple (Merging (Node.Stems tokens) start bound left) (Cause tokens)
    (fun _ => Merging (Node.Stems tokens) start bound left) x

/-- Only the nodes matter, and the bound. -/
theorem Merging.congr {P : Node → Prop} {b b' : Build} (h : Merging P start bound left b)
    (hnodes : b'.nodes = b.nodes) (hbound : b'.bound = b.bound) :
    Merging P start bound left b' := by
  refine ⟨fun n node hnode => h.all n node ?_, ?_, ?_, ?_, hbound.trans h.bound_eq⟩
  · rwa [← hnodes]
  · rw [hnodes]
    exact h.isSome_eq
  · rw [hnodes]
    exact h.asks_eq
  · rw [hnodes]
    exact h.few

theorem Merging.stems {b : Build} (h : Merging (Node.Stems tokens) start bound left b) (n : Nat) :
    (b.nodes[n]?.getD .blank).Stems tokens := by
  cases hnode : b.nodes[n]? with
  | none => exact .blank
  | some node => exact h.all n node hnode

theorem builds_fail {fault : Fault} (h : Cause tokens fault) :
    Builds tokens start bound left (throw fault : Building α) := .throw fun _ _ => h

theorem builds_note (n : Nat) (d : Datum) : Builds tokens start bound left (note n d) :=
  .modify fun _ hb => hb.congr rfl rfl

theorem run_scalarText_of_content {b : Build} {text : String} (fuel : Nat)
    (h : (b.nodes[n]?.getD .blank).content = .scalar text) :
    (scalarText (fuel + 1) n).run b = .ok (text, b) := by
  have hnode : (node n).run b = .ok (b.nodes[n]?.getD .blank, b) := rfl
  rw [scalarText, run_bind_of_ok hnode, h]
  rfl

theorem builds_scalarKey (n : Nat) : Builds tokens start bound left (scalarKey n) := by
  intro b hb
  have hnode : (node n).run b = .ok (b.nodes[n]?.getD .blank, b) := rfl
  have hstems := hb.stems n
  rw [scalarKey, run_bind_of_ok hnode]
  by_cases htag : isScalarTag (b.nodes[n]?.getD .blank).tag = true
  · obtain ⟨text, hcontent, hread⟩ := hstems.scalar htag
    have hrun := run_scalarText_of_content b.nodes.size hcontent
    simp only [htag, Bool.not_true, Bool.false_eq_true, if_false]
    rw [run_bind_of_ok (StateT.run_get b), run_bind_of_ok hrun]
    split
    · next heq => rw [hcontent] at heq; cases heq
    · exact Triple.bind (K := fun _ => Merging (Node.Stems tokens) start bound left)
        (.lift hread) (fun _ => .pure fun _ hb => hb) b hb
  · simp only [htag, Bool.not_false, if_true]
    exact Triple.bind (J := fun _ _ => False) (.throw fun _ _ => .malformed)
      (fun _ _ => False.elim) b hb

theorem builds_meet (n : Nat) : Builds tokens start bound left (meet n) := by
  refine .get_bind fun _ _ => .ite (fun _ => .pure fun _ hb => hb) fun _ => .get_bind fun _ _ => ?_
  split
  · exact (builds_note n _).bind fun _ => .modify fun _ hb => hb.congr rfl rfl
  · exact (builds_scalarKey n).bind fun _ => builds_note n _

theorem builds_key (n : Nat) : Builds tokens start bound left (key n) := by
  refine (builds_meet n).bind fun _ => .get_bind fun _ _ => ?_
  split
  · exact .pure fun _ hb => hb
  · exact builds_fail .malformed

theorem builds_members (hbound : 4 * left + 2 ≤ bound) (n : Nat) :
    Builds tokens start bound left (members n) := by
  refine entries?_bind fun _ _ => .ite (fun _ => ?_) fun _ => .get_bind fun b hb => ?_
  · exact .bind (J := fun _ _ => False) (.throw fun _ _ => .malformed) fun _ _ => False.elim
  have hflatten : Builds tokens start bound left (flatten b.bound n) := by
    rw [hb.bound_eq]
    intro b hb
    obtain ⟨hok, herror⟩ := flatten_triple Node.stable_stems bound n hbound b hb
    exact ⟨fun a b' hrun => (hok a b' hrun).1, fun f hrun => herror f hrun ▸ .malformed⟩
  refine hflatten.bind fun _ => entries?_bind fun b' _ => ?_
  refine .bind (.mapM (P := fun _ => True) fun e _ => ?_) fun _ => .pure fun _ hb => hb.2
  refine (builds_key e.1).bind fun _ => (builds_meet e.2).bind fun _ => ?_
  exact .pure fun _ hb => ⟨trivial, hb⟩

theorem builds_pair (n : Nat) : Builds tokens start bound left (pair n) := by
  refine entries?_bind fun _ _ => ?_
  split
  · exact (builds_meet _).bind fun _ => (builds_meet _).bind fun _ => .pure fun _ hb => hb
  · exact builds_fail .malformed

theorem builds_fill (hbound : 4 * left + 2 ≤ bound) (n : Nat) :
    Builds tokens start bound left (fill n) := by
  have hmeetAll (items : List Nat) : Builds tokens start bound left (items.forM meet) := by
    induction items with
    | nil => exact .pure fun _ hb => hb
    | cons m items ih => exact (builds_meet m).bind fun _ => ih
  have hpairs (items : List Nat) : Builds tokens start bound left (items.mapM pair) :=
    (Triple.mapM (P := fun _ => True) fun m _ =>
      (builds_pair m).post fun _ _ hb => ⟨trivial, hb⟩).post fun _ _ hb => hb.2
  refine .get_bind fun _ _ => ?_
  split
  · exact (hmeetAll _).bind fun _ => builds_note n _
  · exact (builds_members hbound n).bind fun _ => builds_note n _
  · exact (builds_members hbound n).bind fun _ => builds_note n _
  · exact (hpairs _).bind fun _ => builds_note n _
  · exact (hpairs _).bind fun _ => builds_note n _
  · exact builds_fail .malformed

theorem builds_fillAll (hbound : 4 * left + 2 ≤ bound) (fuel i : Nat) :
    Builds tokens start bound left (fillAll fuel i) := by
  induction fuel generalizing i with
  | zero => exact .pure fun _ hb => hb
  | succ fuel ih =>
    refine .get_bind fun _ _ => ?_
    split
    · exact (builds_fill hbound _).bind fun _ => ih (i + 1)
    · exact .pure fun _ hb => hb

/-- The bound on merging is more than four times the merges. -/
theorem merges_le_bound (asks : Nat → Bool) {f : Node → Nat} (nodes : Nodes)
    (hf : ∀ node, mergesOf asks node ≤ f node) :
    4 * merges asks nodes.toList + 2 ≤ 4 * nodes.foldl (fun n node => n + f node) 1 := by
  have hsum (l : List Node) (k : Nat) :
      k + merges asks l ≤ l.foldl (fun n node => n + f node) k := by
    induction l generalizing k with
    | nil => exact Nat.le_refl k
    | cons node l ih =>
      have hnode := hf node
      have hl := ih (k + f node)
      simp only [merges, List.foldl_cons]
      omega
  have := hsum nodes.toList 1
  rw [Array.foldl_toList] at this
  omega

/-- How many entries a node has. -/
def entryCount (node : Node) : Nat :=
  match node.content with
  | .mapping es => es.length
  | _ => 0

theorem mergesOf_le_entryCount (asks : Nat → Bool) (node : Node) :
    mergesOf asks node ≤ entryCount node := by
  obtain ⟨tag, content⟩ := node
  cases content with
  | mapping es => exact List.countP_le_length
  | scalar text => exact Nat.le_refl 0
  | sequence items => exact Nat.le_refl 0

theorem cause_of_ofGraph {g : Graph} {f : Fault} (hg : g.Stems tokens)
    (h : ofGraph g = .error f) : Cause tokens f := by
  let bound := 4 * g.nodes.foldl (fun n node => n + entryCount node) 1
  let first : Build := { nodes := g.nodes, data := .replicate g.nodes.size none, bound }
  have hbound : 4 * merges (asks g.nodes) g.nodes.toList + 2 ≤ bound :=
    merges_le_bound (asks g.nodes) g.nodes (mergesOf_le_entryCount _)
  have hbuilds : Builds tokens g.nodes bound (merges (asks g.nodes) g.nodes.toList)
      (do meet g.root; fillAll (g.nodes.size + 1) 0) :=
    (builds_meet g.root).bind fun _ => builds_fillAll hbound _ 0
  obtain ⟨-, herror⟩ := hbuilds first ⟨hg, fun _ => rfl, fun _ => rfl, Nat.le_refl _, rfl⟩
  replace h : ((do meet g.root; fillAll (g.nodes.size + 1) 0 : Building Unit).run first >>=
      fun result => pure result.2.data) = .error f := h
  cases hrun : (do meet g.root; fillAll (g.nodes.size + 1) 0 : Building Unit).run first with
  | error f' =>
    rw [hrun] at h
    cases h
    exact herror f hrun
  | ok result =>
    rw [hrun] at h
    cases h

end Build

/-- The tokens of a text as it is loaded. -/
def Token.ofString (text : String) : List Token := ofText (Text.unifyNewlines text.toList)

/-- **Causes.**  A text that denotes nothing is not well formed, or nested too deeply, or it
holds the cause: a place where it cannot be read on, a tag, or a scalar that is spelled like
something that it is not. -/
theorem cause_of_parse {text : String} {f : Fault} (h : parse text = .error f) :
    Cause (Token.ofString text) f := by
  by_cases htags : ∀ handle suffix, .tag handle suffix ∉ Token.ofString text
  · obtain ⟨hok, herror⟩ := Graph.stems_of_ofTokens? htags
    have htokens : Token.ofText (Text.unifyNewlines text.toList) = Token.ofString text := rfl
    rw [parse, htokens] at h
    cases hgraph : Graph.ofTokens? (Token.ofString text) with
    | error f' =>
      rw [hgraph] at h
      cases h
      exact herror f hgraph
    | ok g? =>
      rw [hgraph] at h
      cases g? with
      | none => cases h
      | some g =>
        replace h : g.toData = .error f := h
        rw [Graph.toData] at h
        cases hdata : Build.ofGraph g with
        | error f' =>
          rw [hdata] at h
          cases h
          exact Build.cause_of_ofGraph (hok g hgraph) hdata
        | ok data =>
          rw [hdata] at h
          cases h
  · push Not at htags
    obtain ⟨handle, suffix, hmem⟩ := htags
    exact .tagged hmem

/-- Tokens that hold no cause of a failure but of being malformed. -/
structure Sober (tokens : List Token) : Prop where
  untagged : ∀ handle suffix, .tag handle suffix ∉ tokens
  readable : ∀ f, .invalid f ∈ tokens → f = .malformed
  spelled : ∀ text f, .scalar text true ∈ tokens →
    Build.readScalar (.ofSpelling text) text = .error f → f = .malformed
  shallow : ∀ front opened, front <+: tokens →
    front.countP Token.opens = front.countP Token.closes + opened → 2 * opened < Parse.maxDepth

theorem Sober.eq_malformed {f : Fault} (h : Sober tokens) (hf : Cause tokens f) :
    f = .malformed := by
  cases hf with
  | malformed => rfl
  | unreadable hmem => exact h.readable f hmem
  | spelling hmem hread => exact h.spelled _ f hmem hread
  | tagged hmem => exact absurd hmem (h.untagged _ _)
  | tooDeep hfront hopened hdeep =>
    exact absurd (h.shallow _ _ hfront hopened) (Nat.not_lt.2 hdeep)

end ChainApi.Yaml
