import ChainApi.Proofs.Alignment
import Mathlib.Data.List.Sort

/-!
# ChainApi.Proofs.Appearance

The order of the chain names.  They are listed operation by operation, each one where it
first appears, so that the order is that of the first operations of the chains, and of the
supply for chains with the same first operation.  This is the order of supply as long as no
chain has its first operation before that of a chain supplied earlier.

* `pairwise_eraseDups_flatten` — the order of first appearance in a list of lists;
* `sublist_iff_pairwise_idxOf` — when a list without repetitions is a sublist of another one;
* `Catalogue.head?_chainNames_mergeAll` — which chain is named first;
* `Catalogue.NamedFrom` — chains that are named as they are seen;
* `Catalogue.build_chainNames` — those of a catalogue that is built are, and when this is the
  order of supply.
-/

namespace ChainApi

/-! ## first appearances -/

/-- The place of the first list that has an element. -/
def firstWith (ls : List (List String)) (x : String) : Nat := ls.findIdx fun l => l.contains x

/-- Lists put together and without the later repetitions: their elements stand in the order of
the first lists that have them, and those of one list in any order in which each list is. -/
theorem pairwise_eraseDups_flatten {before : String → String → Prop} {ls : List (List String)}
    (nodup : ∀ l ∈ ls, l.Nodup) (ordered : ∀ l ∈ ls, l.Pairwise before) :
    ls.flatten.eraseDups.Pairwise fun x y =>
      firstWith ls x < firstWith ls y ∨ firstWith ls x = firstWith ls y ∧ before x y := by
  induction ls with
  | nil => exact .nil
  | cons l ls ih =>
    rw [List.forall_mem_cons] at nodup ordered
    -- what is in the first list stands at its place, and the rest one place further than there
    have hhead : ∀ x ∈ l, firstWith (l :: ls) x = 0 := by
      intro x hx
      simp [firstWith, List.findIdx_cons, hx]
    have htail : ∀ x, x ∉ l → firstWith (l :: ls) x = firstWith ls x + 1 := by
      intro x hx
      simp [firstWith, List.findIdx_cons, hx]
    have hsplit : (l :: ls).flatten.eraseDups =
        l ++ ls.flatten.eraseDups.filter fun x => !l.elem x := by
      rw [List.flatten_cons, List.eraseDups_append, eraseDups_of_nodup nodup.1, List.removeAll,
        eraseDups_filter]
    rw [hsplit, List.pairwise_append]
    refine ⟨?_, ?_, ?_⟩
    · refine ordered.1.imp_of_mem fun hx hy hbefore => .inr ⟨?_, hbefore⟩
      rw [hhead _ hx, hhead _ hy]
    · refine ((ih nodup.2 ordered.2).filter _).imp_of_mem fun hx hy hxy => ?_
      rw [htail _ (by simpa using (List.mem_filter.1 hx).2),
        htail _ (by simpa using (List.mem_filter.1 hy).2)]
      exact hxy.imp Nat.succ_lt_succ fun h => ⟨congrArg _ h.1, h.2⟩
    · intro x hx y hy
      rw [hhead x hx, htail y (by simpa using (List.mem_filter.1 hy).2)]
      exact .inl (Nat.succ_pos _)

/-! ## sublists -/

section Sublists

variable {l m : List String}

theorem pairwise_idxOf (nodup : m.Nodup) : m.Pairwise fun x y => m.idxOf x < m.idxOf y := by
  rw [List.pairwise_iff_getElem]
  intro i j hi hj hij
  rw [nodup.idxOf_getElem i hi, nodup.idxOf_getElem j hj]
  exact hij

/-- Some elements of a list without repetitions are a sublist if they stand in the order of
their places in it. -/
theorem sublist_iff_pairwise_idxOf (hl : l.Nodup) (hm : m.Nodup) (subset : l ⊆ m) :
    l.Sublist m ↔ l.Pairwise fun x y => m.idxOf x < m.idxOf y := by
  refine ⟨fun h => (pairwise_idxOf hm).sublist h, fun h => ?_⟩
  have : Std.Antisymm fun x y => m.idxOf x < m.idxOf y :=
    ⟨fun _ _ hxy hyx => absurd hyx (Nat.lt_asymm hxy)⟩
  exact List.sublist_of_subperm_of_pairwise (List.subperm_of_subset hl subset) h (pairwise_idxOf hm)

/-- Two elements at most, of which the first one is the same, have only one order. -/
theorem eq_of_perm_of_head? (perm : l.Perm m) (head : l.head? = m.head?) (short : m.length ≤ 2) :
    l = m := by
  cases m with
  | nil => exact perm.eq_nil
  | cons a m =>
    cases l with
    | nil => exact absurd perm.symm.eq_nil (List.cons_ne_nil _ _)
    | cons b l =>
      obtain rfl : b = a := Option.some.inj head
      have hrest := (List.perm_cons b).1 perm
      cases m with
      | nil => rw [hrest.eq_nil]
      | cons c m =>
        obtain rfl : m = [] := List.length_eq_zero_iff.1 (by simpa using short)
        rw [List.perm_singleton.1 hrest]

end Sublists

namespace Catalogue

variable {a b c : Catalogue} {options : Options} {chains : List (String × Document)}
  {sources : List (String × Catalogue)} {chain : String}

/-! ## the chain that is named first -/

/-- The chain that is named first in a merge is that of the left catalogue, if it has any. -/
theorem head?_chainNames_merge (ha : a.Aligned) (b : Catalogue) :
    (merge a b).chainNames.head? = a.chainNames.head?.or b.chainNames.head? := by
  obtain ⟨es, nodup⟩ := a
  cases es with
  | nil =>
    have hempty : (⟨[], nodup⟩ : Catalogue) = ∅ := rfl
    rw [hempty, empty_merge, chainNames_empty, List.head?_nil, Option.none_or]
  | cons e es =>
    obtain ⟨id, r⟩ := e
    have hr : Table.get? ⟨(id, r) :: es, nodup⟩ id = some r :=
      Table.get?_of_mem_entries List.mem_cons_self
    obtain ⟨covered, nonempty, -, hcovers⟩ := ha id r hr
    obtain ⟨first, rest, rfl⟩ := List.exists_cons_of_ne_nil nonempty
    -- the first record has a first chain, which it keeps whatever is merged into it
    have hkeys : ∀ s : Option OperationTypes,
        ∃ more, ((s.map r.merge).getD r).endpoint.keys = first :: more := by
      intro s
      cases s with
      | none => exact ⟨rest, hcovers.endpoint⟩
      | some s =>
        have hunion := Table.keys_union r.endpoint s.endpoint
        rw [hcovers.endpoint, List.cons_append] at hunion
        exact ⟨_, hunion⟩
    obtain ⟨more, hmore⟩ := hkeys (b.get? id)
    simp only [chainNames, merge, Table.unionWith, Table.values, List.map_cons, List.cons_append,
      List.flatMap_cons, hmore, hcovers.endpoint, List.eraseDups_cons, List.head?_cons,
      Option.some_or]

theorem head?_chainNames_mergeAll {cs : List Catalogue} (h : ∀ c ∈ cs, c.Aligned) :
    (mergeAll cs).chainNames.head? = cs.findSome? fun c => c.chainNames.head? := by
  induction cs with
  | nil => rfl
  | cons c cs ih =>
    rw [List.forall_mem_cons] at h
    have hmerge : mergeAll (c :: cs) = merge c (mergeAll cs) := by
      rw [mergeAll, List.foldl_cons, empty_merge, foldl_merge_eq]
    rw [hmerge, head?_chainNames_merge h.1, ih h.2, List.findSome?_cons]
    cases c.chainNames.head? <;> rfl

theorem findSome?_eq_find? {f : String × Catalogue → Option String} {p : String → Bool}
    (h : ∀ source ∈ sources, f source = if p source.1 then some source.1 else none) :
    sources.findSome? f = (sources.map Prod.fst).find? p := by
  induction sources with
  | nil => rfl
  | cons source sources ih =>
    rw [List.forall_mem_cons] at h
    rw [List.findSome?_cons, List.map_cons, List.find?_cons, h.1, ih h.2]
    cases p source.1 <;> rfl

theorem Extracted.exists_document (extracted : Extracted options chains sources)
    {source : String × Catalogue} (hsource : source ∈ sources) :
    ∃ document, (Source.extract ⟨source.1, document, options⟩).outcome = .ok source.2 := by
  obtain ⟨chain, -, hname, hextract⟩ := exists_of_mem_forall₂ extracted.flip hsource
  exact ⟨chain.2, hname ▸ hextract⟩

/-- If the catalogues of distinct chains name their own chain only, then a chain is named in
the merge as soon as its catalogue names anything. -/
theorem mem_chainNames_mergeAll_iff (distinct : (sources.map Prod.fst).Nodup)
    (own : ∀ source ∈ sources, ∀ k ∈ source.2.chainNames, k = source.1)
    {source : String × Catalogue} (hsource : source ∈ sources) :
    source.1 ∈ (mergeAll (sources.map Prod.snd)).chainNames ↔ source.2.chainNames ≠ [] := by
  rw [mem_chainNames_mergeAll]
  constructor
  · rintro ⟨d, hd, hmem⟩
    obtain ⟨source', hsource', rfl⟩ := List.mem_map.1 hd
    obtain rfl := List.inj_on_of_nodup_map distinct hsource hsource' (own _ hsource' _ hmem)
    exact List.ne_nil_of_mem hmem
  · intro hne
    obtain ⟨k, hk⟩ := List.exists_mem_of_ne_nil _ hne
    exact ⟨_, List.mem_map_of_mem hsource, own source hsource k hk ▸ hk⟩

/-- The chain that is named first is the first supplied one that is named at all. -/
theorem head?_chainNames_of_build (built : (build options chains).outcome = .ok c) :
    c.chainNames.head? =
      (chains.map Prod.fst).find? fun name => c.chainNames.contains name := by
  obtain ⟨-, distinct, sources, extracted, rfl⟩ := exists_extracted_of_build built
  rw [← names_of_extracted extracted] at distinct ⊢
  have haligned : ∀ d ∈ sources.map Prod.snd, d.Aligned := by
    intro d hd
    obtain ⟨source, hsource, rfl⟩ := List.mem_map.1 hd
    obtain ⟨document, hextract⟩ := extracted.exists_document hsource
    exact aligned_of_extract hextract
  have hown : ∀ source ∈ sources, ∀ k ∈ source.2.chainNames, k = source.1 := by
    intro source hsource k hk
    obtain ⟨document, hextract⟩ := extracted.exists_document hsource
    exact ((mem_chainNames_of_extract hextract).1 hk).1
  rw [head?_chainNames_mergeAll haligned, List.findSome?_map]
  refine findSome?_eq_find? fun source hsource => ?_
  have hnamed := mem_chainNames_mergeAll_iff distinct hown hsource
  cases hnames : source.2.chainNames with
  | nil => simp [hnames, hnamed]
  | cons k rest =>
    obtain rfl : k = source.1 := hown source hsource k (hnames ▸ List.mem_cons_self)
    simp [hnames, hnamed]

/-! ## the order of the names -/

/-- The place of the first operation that a chain has. -/
def firstOperation (c : Catalogue) (chain : String) : Nat :=
  c.values.findIdx fun r => r.endpoint.contains chain

/-- The order of the first operations, and that of supply for those with the same one. -/
def SeenBefore (c : Catalogue) (names : List String) (x y : String) : Prop :=
  c.firstOperation x < c.firstOperation y ∨
    c.firstOperation x = c.firstOperation y ∧ names.idxOf x < names.idxOf y

/-- The chains of a catalogue are named as they are seen, after they were supplied under some
names. -/
structure NamedFrom (c : Catalogue) (names : List String) : Prop where
  nodup : c.chainNames.Nodup
  subset : c.chainNames ⊆ names
  /-- An operation has its chains in the order of supply. -/
  records : ∀ r ∈ c.values, r.endpoint.keys.Sublist names
  ordered : c.chainNames.Pairwise (c.SeenBefore names)
  /-- The first name is the first one supplied of those that are named. -/
  first : c.chainNames.head? = names.find? fun name => c.chainNames.contains name

theorem pairwise_seenBefore {names : List String} (distinct : names.Nodup)
    (records : ∀ r ∈ c.values, r.endpoint.keys.Sublist names) :
    c.chainNames.Pairwise (c.SeenBefore names) := by
  have hkeys : ∀ l ∈ c.values.map fun r => r.endpoint.keys, l.Sublist names := by
    intro l hl
    obtain ⟨r, hr, rfl⟩ := List.mem_map.1 hl
    exact records r hr
  have hfirst : ∀ x, c.firstOperation x = firstWith (c.values.map fun r => r.endpoint.keys) x :=
    fun x => (List.findIdx_map _ _ _).symm
  have hpairwise := pairwise_eraseDups_flatten (fun l hl => distinct.sublist (hkeys l hl))
    fun l hl => (pairwise_idxOf distinct).sublist (hkeys l hl)
  rw [chainNames, List.flatMap_def]
  refine hpairwise.imp fun {x y} hseen => ?_
  rwa [SeenBefore, hfirst, hfirst]

/-- The order is that of supply if and only if no chain is seen before one that was supplied
earlier. -/
theorem NamedFrom.sublist_iff {names : List String} (distinct : names.Nodup)
    (h : c.NamedFrom names) : c.chainNames.Sublist names ↔
      ∀ x ∈ c.chainNames, ∀ y ∈ c.chainNames, names.idxOf x < names.idxOf y →
        c.firstOperation x ≤ c.firstOperation y := by
  rw [sublist_iff_pairwise_idxOf h.nodup distinct h.subset]
  constructor
  · intro hplaces
    have hseen : c.chainNames.Pairwise fun x y =>
        names.idxOf x < names.idxOf y → c.firstOperation x ≤ c.firstOperation y :=
      h.ordered.imp fun hseen _ => hseen.elim Nat.le_of_lt fun hsame => Nat.le_of_eq hsame.1
    exact List.Pairwise.forall_of_forall_of_flip (fun _ _ _ => Nat.le_refl _) hseen
      (hplaces.imp fun hxy hyx => absurd hyx (Nat.lt_asymm hxy))
  · intro hfirst
    refine h.ordered.imp_of_mem fun {x y} hx hy hseen => ?_
    rcases hseen with hless | ⟨-, hplaces⟩
    · rcases Nat.lt_trichotomy (names.idxOf x) (names.idxOf y) with hxy | hxy | hxy
      · exact hxy
      · obtain rfl := (List.idxOf_inj (h.subset hx)).1 hxy
        exact absurd hless (Nat.lt_irrefl _)
      · exact absurd hless (Nat.not_lt.2 (hfirst y hy x hx hxy))
    · exact hplaces

/-- Two chains are named in the order of supply. -/
theorem NamedFrom.sublist_of_length_le_two {names : List String} (distinct : names.Nodup)
    (h : c.NamedFrom names) (short : c.chainNames.length ≤ 2) : c.chainNames.Sublist names := by
  have hperm : (names.filter fun name => c.chainNames.contains name).Perm c.chainNames := by
    rw [List.perm_ext_iff_of_nodup (distinct.sublist List.filter_sublist) h.nodup]
    intro name
    simpa using @h.subset name
  have hsame := eq_of_perm_of_head? hperm (by rw [List.head?_filter, h.first]) short
  rw [← hsame]
  exact List.filter_sublist

/-- The chains of an operation are those that have it, in the order of supply. -/
theorem records_sublist_of_build (built : (build options chains).outcome = .ok c) :
    ∀ r ∈ c.values, r.endpoint.keys.Sublist (chains.map Prod.fst) := by
  intro r hr
  obtain ⟨-, distinct, sources, extracted, rfl⟩ := exists_extracted_of_build built
  obtain ⟨⟨id, r⟩, he, rfl⟩ := List.mem_map.1 hr
  have hcombine := Table.get?_of_mem_entries he
  rw [get?_mergeAll, ← map_snd_holders] at hcombine
  rw [← names_of_extracted extracted] at distinct ⊢
  have hholders := map_fst_holders_sublist id sources
  have hown : ∀ h ∈ holders id sources, h.2.endpoint.keys = [h.1] := by
    intro h hmem
    obtain ⟨source, hsource, hh⟩ := List.mem_filterMap.1 hmem
    obtain ⟨s, hs, rfl⟩ := Option.map_eq_some_iff.1 hh
    exact (covers_of_extracted extracted source hsource id s hs).endpoint
  have hgathers : Gathers OperationTypes.endpoint r (holders id sources) :=
    gathers_of_combine (fun _ _ => rfl) hown (distinct.sublist hholders) hcombine
  have hkeys := congrArg (List.map Prod.fst) hgathers
  rw [List.map_map, List.map_map] at hkeys
  exact (show r.endpoint.keys = (holders id sources).map Prod.fst from hkeys) ▸ hholders

theorem namedFrom_of_build (built : (build options chains).outcome = .ok c) :
    c.NamedFrom (chains.map Prod.fst) := by
  obtain ⟨-, distinct, -⟩ := exists_extracted_of_build built
  have hrecords := records_sublist_of_build built
  refine ⟨nodup_eraseDups _, fun chain hchain => ?_, hrecords,
    pairwise_seenBefore distinct hrecords, head?_chainNames_of_build built⟩
  obtain ⟨document, -, hmem, -⟩ := (mem_chainNames_of_build built).1 hchain
  exact List.mem_map_of_mem hmem

/-- **The chains are named in the order in which they are seen.**  In a catalogue that is built
the names, and with them the members of the union in the file, are those of the chains that
contribute an operation, each one once, in the order of their first operations; chains with
the same first operation stand in the order of supply, as they do in each operation, and the
first name is the first one supplied that is there at all.  The names as a whole are in the
order of supply if and only if no chain has its first operation before that of a chain
supplied earlier, and always if there are two of them at most. -/
theorem build_chainNames (built : (build options chains).outcome = .ok c) :
    c.NamedFrom (chains.map Prod.fst) ∧
    (∀ chain, chain ∈ c.chainNames ↔ Contributes options chains chain) ∧
    (c.chainNames.Sublist (chains.map Prod.fst) ↔
      ∀ x ∈ c.chainNames, ∀ y ∈ c.chainNames,
        (chains.map Prod.fst).idxOf x < (chains.map Prod.fst).idxOf y →
          c.firstOperation x ≤ c.firstOperation y) ∧
    (c.chainNames.length ≤ 2 → c.chainNames.Sublist (chains.map Prod.fst)) ∧
    ∀ includePagination,
      (c.chainNames = [] → "export type ChainName = never" ∈ c.lines includePagination) ∧
      (c.chainNames ≠ [] → "export type ChainName = " ++
          " | ".intercalate (c.chainNames.map fun chain => "'" ++ chain ++ "'") ∈
        c.lines includePagination) := by
  obtain ⟨-, distinct, -⟩ := exists_extracted_of_build built
  have hnamed := namedFrom_of_build built
  refine ⟨hnamed, fun _ => mem_chainNames_of_build built, hnamed.sublist_iff distinct,
    hnamed.sublist_of_length_le_two distinct, fun p => ?_⟩
  have hunion := c.unionLine_mem_lines p
  exact ⟨fun hnone => unionLine_of_eq_nil hnone ▸ hunion,
    fun hsome => unionLine_of_ne_nil hsome ▸ hunion⟩

/-- Three chains, of which the first and the last share an operation. -/
def interleavedChains : List (String × Document) :=
  [("kyve", { paths := .singleton "/bank" (barePath "Balance" none) }),
    ("osmosis", { paths := .singleton "/supply" (barePath "Supply" none) }),
    ("evmos", { paths := .singleton "/bank" (barePath "Balance" none) })]

theorem build_chainNames_interleavedChains :
    ∃ c, (build {} interleavedChains).outcome = .ok c ∧
      c.NamedFrom ["kyve", "osmosis", "evmos"] ∧
      c.firstOperation "evmos" < c.firstOperation "osmosis" := by
  have hnamed := (build_chainNames (show (build {} interleavedChains).outcome = .ok _ from rfl)).1
  exact ⟨_, rfl, hnamed, by decide⟩

/-- The last of three chains is named before the second one, since it shares the operation of
the first one. -/
theorem build_interleaves :
    ∃ c, (build {} interleavedChains).outcome = .ok c ∧
      c.chainNames = ["kyve", "evmos", "osmosis"] ∧
      ¬ c.chainNames.Sublist (interleavedChains.map Prod.fst) :=
  ⟨_, rfl, by decide, by decide⟩

end Catalogue

end ChainApi
