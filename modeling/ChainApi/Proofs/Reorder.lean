import ChainApi.Proofs.Build
import Mathlib.Data.List.Lattice
import Mathlib.Data.List.Pairwise

/-!
# ChainApi.Proofs.Reorder

Catalogues merged in another order.  Merging is not commutative: the catalogue that
comes first decides where the operations stand, which method and comment they have,
and what a chain of both has.  Where no chain has an entry in two of the catalogues
there is nothing to decide for the columns, and they hold the same in any order.

Each of these decisions is a search for the first record that has something to say,
and a search finds the same in any order if all that could be found agree.

* `findSome?_eq_of_perm` — what a search finds in a list that is reordered;
* `Catalogue.Apart` — catalogues that have no entry of an operation in common;
* `OperationTypes.SameContent` — records with the same entries, in whatever order;
* `Catalogue.mergeAll_perm` — what a merge holds in another order.
-/

namespace ChainApi

/-- A search finds the same in another order if all that could be found agree. -/
theorem findSome?_eq_of_perm {f : α → Option β} {l m : List α} (perm : l.Perm m)
    (agree : ∀ a ∈ l, ∀ b ∈ l, ∀ x y, f a = some x → f b = some y → x = y) :
    l.findSome? f = m.findSome? f := by
  cases hm : m.findSome? f with
  | none =>
    rw [List.findSome?_eq_none_iff] at hm ⊢
    exact fun a ha => hm a (perm.mem_iff.1 ha)
  | some y =>
    obtain ⟨b, hb, hy⟩ := List.exists_of_findSome?_eq_some hm
    cases hl : l.findSome? f with
    | none =>
      have := List.findSome?_eq_none_iff.1 hl b (perm.mem_iff.2 hb)
      rw [this] at hy
      contradiction
    | some x =>
      obtain ⟨a, ha, hx⟩ := List.exists_of_findSome?_eq_some hl
      rw [agree a ha b (perm.mem_iff.2 hb) x y hx hy]

/-! ## records -/

namespace OperationTypes

/-- Two records that have no entry for the same chain, in any of the columns. -/
structure Apart (r s : OperationTypes) : Prop where
  endpoint : r.endpoint.keys.Disjoint s.endpoint.keys
  path : r.path.keys.Disjoint s.path.keys
  query : r.query.keys.Disjoint s.query.keys
  body : r.body.keys.Disjoint s.body.keys
  success : r.success.keys.Disjoint s.success.keys
  error : r.error.keys.Disjoint s.error.keys

/-- Two records that hold the same for each chain in each of the columns, in whatever
order. -/
structure SameContent (r s : OperationTypes) : Prop where
  endpoint : ∀ chain, r.endpoint.get? chain = s.endpoint.get? chain
  path : ∀ chain, r.path.get? chain = s.path.get? chain
  query : ∀ chain, r.query.get? chain = s.query.get? chain
  body : ∀ chain, r.body.get? chain = s.body.get? chain
  success : ∀ chain, r.success.get? chain = s.success.get? chain
  error : ∀ chain, r.error.get? chain = s.error.get? chain

end OperationTypes

section Combine

variable {rs ss : List OperationTypes} {r s : OperationTypes}

/-- A merged record has the method of the first one. -/
theorem method_combine (hr : combine OperationTypes.merge rs = some r) :
    some r.method = rs.findSome? fun a => some a.method := by
  cases rs with
  | nil => simp at hr
  | cons a rs =>
    rw [combine_cons, Option.some.injEq] at hr
    rw [← hr, method_foldl_merge, List.findSome?_cons]

/-- A merged record has the first comment. -/
theorem comment_combine (hr : combine OperationTypes.merge rs = some r) :
    r.comment = rs.findSome? OperationTypes.comment := by
  cases rs with
  | nil => simp at hr
  | cons a rs =>
    rw [combine_cons, Option.some.injEq] at hr
    rw [← hr, comment_foldl_merge, List.findSome?_cons]
    cases a.comment <;> rfl

/-- A merged record holds for a chain what the first of the records holds that has
something for it. -/
theorem get?_column_combine {column : OperationTypes → Table α}
    (hmerge : ∀ a b, column (a.merge b) = (column a).union (column b))
    (hr : combine OperationTypes.merge rs = some r) (chain : String) :
    (column r).get? chain = rs.findSome? fun a => (column a).get? chain := by
  cases rs with
  | nil => simp at hr
  | cons a rs =>
    rw [combine_cons, Option.some.injEq] at hr
    rw [← hr, column_foldl_merge hmerge, Table.get?_unionAllWith, combine_left,
      List.filterMap_map, List.head?_filterMap]
    rfl

/-- Reordered records that are disjoint in a column hold the same in it. -/
theorem get?_column_of_perm {column : OperationTypes → Table α}
    (hmerge : ∀ a b, column (a.merge b) = (column a).union (column b)) (perm : rs.Perm ss)
    (apart : rs.Pairwise fun a b => (column a).keys.Disjoint (column b).keys)
    (hr : combine OperationTypes.merge rs = some r)
    (hs : combine OperationTypes.merge ss = some s) (chain : String) :
    (column r).get? chain = (column s).get? chain := by
  rw [get?_column_combine hmerge hr, get?_column_combine hmerge hs]
  let agree : OperationTypes → OperationTypes → Prop := fun a b =>
    ∀ x y, (column a).get? chain = some x → (column b).get? chain = some y → x = y
  have hsymm : Std.Symm agree := ⟨fun a b h x y hx hy => (h y x hy hx).symm⟩
  -- two records at different places cannot both hold something for the chain
  have hagree : rs.Pairwise agree := apart.imp fun hdisjoint x y hx hy =>
    (hdisjoint (Table.mem_keys_of_get? hx) (Table.mem_keys_of_get? hy)).elim
  have hself : ∀ a ∈ rs, agree a a := fun a _ x y hx hy => Option.some.inj (hx.symm.trans hy)
  exact findSome?_eq_of_perm perm fun a ha b hb => hagree.forall_of_forall hself ha hb

/-- Reordered records that have no entry in common hold the same. -/
theorem sameContent_of_perm (perm : rs.Perm ss) (apart : rs.Pairwise OperationTypes.Apart)
    (hr : combine OperationTypes.merge rs = some r)
    (hs : combine OperationTypes.merge ss = some s) : r.SameContent s where
  endpoint := get?_column_of_perm (fun _ _ => rfl) perm (apart.imp (·.endpoint)) hr hs
  path := get?_column_of_perm (fun _ _ => rfl) perm (apart.imp (·.path)) hr hs
  query := get?_column_of_perm (fun _ _ => rfl) perm (apart.imp (·.query)) hr hs
  body := get?_column_of_perm (fun _ _ => rfl) perm (apart.imp (·.body)) hr hs
  success := get?_column_of_perm (fun _ _ => rfl) perm (apart.imp (·.success)) hr hs
  error := get?_column_of_perm (fun _ _ => rfl) perm (apart.imp (·.error)) hr hs

end Combine

/-! ## catalogues -/

namespace Catalogue

variable {cs ds : List Catalogue} {id : String}

/-- Two catalogues that have no entry for the same chain under any operation. -/
def Apart (c d : Catalogue) : Prop :=
  ∀ id r s, c.get? id = some r → d.get? id = some s → r.Apart s

/-- The records of an operation, in the order of the catalogues that have it. -/
def recordsOf (id : String) (cs : List Catalogue) : List OperationTypes :=
  cs.filterMap fun c => c.get? id

/-- All catalogues that have an operation agree on its method. -/
def AgreeOnMethod (id : String) (cs : List Catalogue) : Prop :=
  ∀ r ∈ recordsOf id cs, ∀ s ∈ recordsOf id cs, r.method = s.method

/-- All catalogues that have a comment on an operation agree on it. -/
def AgreeOnComment (id : String) (cs : List Catalogue) : Prop :=
  ∀ r ∈ recordsOf id cs, ∀ s ∈ recordsOf id cs, ∀ x y,
    r.comment = some x → s.comment = some y → x = y

theorem pairwise_recordsOf (apart : cs.Pairwise Apart) (id : String) :
    (recordsOf id cs).Pairwise OperationTypes.Apart := by
  rw [recordsOf, List.pairwise_filterMap]
  exact apart.imp fun h r hr s hs => h id r s hr hs

theorem mem_keys_mergeAll (cs : List Catalogue) (id : String) :
    id ∈ (mergeAll cs).keys ↔ ∃ c ∈ cs, id ∈ c.keys := by
  rw [keys_mergeAll, List.mem_eraseDups, List.mem_flatMap]

/-- **The order of supply does not matter for what the chains have.**  Catalogues that
have no entry of an operation in common, merged in any order, have the same operations,
and under each of them the same entries.  An operation has the same method, and the same
comment, if the catalogues that have it agree on the method, or on the comment. -/
theorem mergeAll_perm (perm : cs.Perm ds) (apart : cs.Pairwise Apart) :
    (∀ id, id ∈ (mergeAll cs).keys ↔ id ∈ (mergeAll ds).keys) ∧
      ∀ id r s, (mergeAll cs).get? id = some r → (mergeAll ds).get? id = some s →
        r.SameContent s ∧ (AgreeOnMethod id cs → r.method = s.method) ∧
          (AgreeOnComment id cs → r.comment = s.comment) := by
  constructor
  · intro id
    rw [mem_keys_mergeAll, mem_keys_mergeAll]
    exact exists_congr fun c => and_congr_left fun _ => perm.mem_iff
  · intro id r s hr hs
    rw [get?_mergeAll] at hr hs
    have hperm : (recordsOf id cs).Perm (recordsOf id ds) := perm.filterMap _
    refine ⟨sameContent_of_perm hperm (pairwise_recordsOf apart id) hr hs, ?_, ?_⟩
    · intro agree
      have hmethod := findSome?_eq_of_perm (f := fun a => some a.method) hperm ?_
      · rw [recordsOf, ← method_combine hr, recordsOf, ← method_combine hs] at hmethod
        exact Option.some.inj hmethod
      · intro a ha b hb x y hx hy
        exact Option.some.inj hx ▸ Option.some.inj hy ▸ agree a ha b hb
    · intro agree
      rw [comment_combine hr, comment_combine hs]
      exact findSome?_eq_of_perm hperm agree

/-- The catalogue of a chain with one operation. -/
def balanceOn (chain : String) (comment : Option String) : Catalogue :=
  .singleton "Balance" (bareRecord chain "/bank" comment)

theorem apart_balanceOn {a b : String} (h : a ≠ b) (x y : Option String) :
    (balanceOn a x).Apart (balanceOn b y) := by
  intro id r s hr hs
  have hrecord : ∀ {chain comment r}, (balanceOn chain comment).get? id = some r →
      r = bareRecord chain "/bank" comment := fun hget =>
    (Prod.mk.inj (List.mem_singleton.1 (Table.mem_entries_of_get? hget))).2
  rw [hrecord hr, hrecord hs]
  have hdisjoint : [a].Disjoint [b] := by simpa using h.symm
  exact ⟨hdisjoint, hdisjoint, hdisjoint, hdisjoint, hdisjoint, hdisjoint⟩

/-- Three chains with an operation that the first one has no comment on. -/
def threeChains : List Catalogue :=
  [balanceOn "kyve" none, balanceOn "osmosis" (some "of an account"),
    balanceOn "evmos" (some "of an account")]

theorem mergeAll_perm_threeChains :
    threeChains.Perm threeChains.reverse ∧ threeChains.Pairwise Apart ∧
      ∃ r s, (mergeAll threeChains).get? "Balance" = some r ∧
        (mergeAll threeChains.reverse).get? "Balance" = some s ∧ r.endpoint.keys ≠ s.endpoint.keys ∧
        r.SameContent s ∧ r.method = s.method ∧ r.comment = s.comment := by
  have hperm : threeChains.Perm threeChains.reverse := (List.reverse_perm _).symm
  have hapart : threeChains.Pairwise Apart := by
    simp only [threeChains, List.pairwise_cons, List.mem_cons, List.not_mem_nil, or_false,
      forall_eq_or_imp, forall_eq, IsEmpty.forall_iff, implies_true, List.Pairwise.nil, and_true]
    exact ⟨⟨apart_balanceOn (by decide) _ _, apart_balanceOn (by decide) _ _⟩,
      apart_balanceOn (by decide) _ _⟩
  have hmethod : AgreeOnMethod "Balance" threeChains := by rw [AgreeOnMethod]; decide
  have hcomment : AgreeOnComment "Balance" threeChains := by
    intro r hr s hs x y hx hy
    have hsome : ∀ a ∈ recordsOf "Balance" threeChains, a.comment ≠ none →
        a.comment = some "of an account" := by decide
    have hx' := hsome r hr (by rw [hx]; nofun)
    have hy' := hsome s hs (by rw [hy]; nofun)
    exact Option.some.inj (hx.symm.trans (hx'.trans (hy'.symm.trans hy)))
  obtain ⟨-, hsame⟩ := mergeAll_perm hperm hapart
  obtain ⟨hcontent, hmethods, hcomments⟩ := hsame "Balance" _ _ rfl rfl
  exact ⟨hperm, hapart, _, _, rfl, rfl, by decide, hcontent, hmethods hmethod,
    hcomments hcomment⟩

end Catalogue

end ChainApi
