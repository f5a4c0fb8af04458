import ChainApi.Catalogue.Build
import ChainApi.Proofs.Extraction
import ChainApi.Proofs.Merge
import Mathlib.Data.List.Forall2

/-!
# ChainApi.Proofs.Build

What the catalogue of several chains holds, told from the catalogues of the single
chains.  Building is merging these from left to right; a column of a merged record
is the union of the columns of the records that went into it; and since each of
these has one entry, that of its own chain, the union is their list.

* `Catalogue.outcome_build`, `Catalogue.exists_extracted_of_build` — building is merging what
  is extracted;
* `OperationTypes.GatheredFrom` — a record that holds what others hold, and nothing else;
* `Catalogue.build_gathers` — each record is gathered from those of the chains that
  have the operation, in the order in which the chains are given.
-/

namespace ChainApi

/-! ## gathering records -/

/-- A column holds what the records of the holders have in it, each under the name of
its own holder, in order and with nothing else. -/
def Gathers (column : OperationTypes → Table α) (r : OperationTypes)
    (holders : List (String × OperationTypes)) : Prop :=
  (column r).entries.map (fun e => (e.1, some e.2)) =
    holders.map fun h => (h.1, (column h.2).get? h.1)

/-- A record that is gathered from those of its holders: the first one decides the
method, the first comment is taken, and each column holds what the holders have. -/
structure OperationTypes.GatheredFrom (r : OperationTypes)
    (holders : List (String × OperationTypes)) : Prop where
  method : some r.method = (holders.map fun h => h.2.method).head?
  comment : r.comment = holders.findSome? fun h => h.2.comment
  endpoint : Gathers OperationTypes.endpoint r holders
  path : Gathers OperationTypes.path r holders
  query : Gathers OperationTypes.query r holders
  body : Gathers OperationTypes.body r holders
  success : Gathers OperationTypes.success r holders
  error : Gathers OperationTypes.error r holders

section Columns

variable {r : OperationTypes} {holders : List (String × OperationTypes)}

theorem method_foldl_merge (rs : List OperationTypes) (a : OperationTypes) :
    (rs.foldl OperationTypes.merge a).method = a.method := by
  induction rs generalizing a with
  | nil => rfl
  | cons b rs ih => rw [List.foldl_cons, ih]; rfl

theorem comment_foldl_merge (rs : List OperationTypes) (a : OperationTypes) :
    (rs.foldl OperationTypes.merge a).comment =
      a.comment.or (rs.findSome? OperationTypes.comment) := by
  induction rs generalizing a with
  | nil => simp
  | cons b rs ih =>
    rw [List.foldl_cons, ih, List.findSome?_cons]
    simp only [OperationTypes.merge]
    cases a.comment <;> cases b.comment <;> rfl

/-- Each column of a merged record is the union of the columns. -/
theorem column_foldl_merge {column : OperationTypes → Table α}
    (hmerge : ∀ a b, column (a.merge b) = (column a).union (column b))
    (rs : List OperationTypes) (a : OperationTypes) :
    column (rs.foldl OperationTypes.merge a) =
      Table.unionAllWith (fun a _ => a) ((a :: rs).map column) := by
  have hfold : ∀ (rs : List OperationTypes) (a : OperationTypes),
      column (rs.foldl OperationTypes.merge a) = (rs.map column).foldl Table.union (column a) := by
    intro rs
    induction rs with
    | nil => intro a; rfl
    | cons b rs ih => intro a; rw [List.foldl_cons, ih, hmerge]; rfl
  rw [hfold, List.map_cons, Table.unionAllWith, List.foldl_cons]
  show _ = (rs.map column).foldl Table.union (Table.union ∅ (column a))
  rw [Table.empty_union]

/-- Under the name of a holder, the first table that holds something is its own. -/
theorem findSome?_holders {column : OperationTypes → Table α}
    (own : ∀ h ∈ holders, (column h.2).keys = [h.1]) (distinct : (holders.map Prod.fst).Nodup)
    {h : String × OperationTypes} (hmem : h ∈ holders) :
    (holders.findSome? fun h' => (column h'.2).get? h.1) = (column h.2).get? h.1 := by
  induction holders with
  | nil => simp at hmem
  | cons g holders ih =>
    rw [List.map_cons, List.nodup_cons] at distinct
    rw [List.findSome?_cons]
    rcases List.mem_cons.1 hmem with rfl | hmem
    · have hsome : ((column h.2).get? h.1).isSome := by
        rw [Table.isSome_get?_iff, own h List.mem_cons_self]
        exact List.mem_singleton_self _
      obtain ⟨a, ha⟩ := Option.isSome_iff_exists.1 hsome
      rw [ha]
    · have hnone : (column g.2).get? h.1 = none := by
        rw [Table.get?_eq_none_iff, own g List.mem_cons_self, List.mem_singleton]
        rintro hname
        exact distinct.1 (hname ▸ List.mem_map_of_mem hmem)
      rw [hnone]
      exact ih (fun h' hh => own h' (List.mem_cons_of_mem _ hh)) distinct.2 hmem

/-- If each record has one entry in a column, that of its holder, then the merged record
gathers them. -/
theorem gathers_of_combine {column : OperationTypes → Table α}
    (hmerge : ∀ a b, column (a.merge b) = (column a).union (column b))
    (own : ∀ h ∈ holders, (column h.2).keys = [h.1]) (distinct : (holders.map Prod.fst).Nodup)
    (hr : combine OperationTypes.merge (holders.map Prod.snd) = some r) :
    Gathers column r holders := by
  have hcolumn : column r =
      Table.unionAllWith (fun a _ => a) (holders.map fun h => column h.2) := by
    cases holders with
    | nil => simp at hr
    | cons h holders =>
      rw [List.map_cons, combine_cons, Option.some.injEq] at hr
      rw [← hr, column_foldl_merge hmerge]
      simp [Function.comp_def]
  have hkeys : (column r).keys = holders.map Prod.fst := by
    have hflat : ((holders.map fun h => column h.2).flatMap Table.keys) =
        holders.map Prod.fst := by
      rw [List.flatMap_map, ← List.flatMap_pure_eq_map]
      exact List.flatMap_congr own
    rw [hcolumn, Table.keys_unionAllWith, hflat, eraseDups_of_nodup distinct]
  rw [Gathers, Table.entries_map_some, hkeys, List.map_map]
  refine List.map_congr_left fun h hmem => ?_
  rw [Function.comp_apply, hcolumn, Table.get?_unionAllWith, combine_left, List.filterMap_map,
    List.head?_filterMap]
  exact congrArg _ (findSome?_holders own distinct hmem)

/-- If each record covers the chain of its holder only, then the merged record is
gathered from them. -/
theorem gatheredFrom_of_combine (own : ∀ h ∈ holders, h.2.Covers [h.1])
    (distinct : (holders.map Prod.fst).Nodup)
    (hr : combine OperationTypes.merge (holders.map Prod.snd) = some r) :
    r.GatheredFrom holders where
  method := by
    cases holders with
    | nil => simp at hr
    | cons h holders =>
      rw [List.map_cons, combine_cons, Option.some.injEq] at hr
      rw [← hr, method_foldl_merge, List.map_cons, List.head?_cons]
  comment := by
    cases holders with
    | nil => simp at hr
    | cons h holders =>
      rw [List.map_cons, combine_cons, Option.some.injEq] at hr
      rw [← hr, comment_foldl_merge, List.findSome?_cons, List.findSome?_map]
      cases h.2.comment <;> rfl
  endpoint := gathers_of_combine (fun _ _ => rfl) (fun h hh => (own h hh).endpoint) distinct hr
  path := gathers_of_combine (fun _ _ => rfl) (fun h hh => (own h hh).path) distinct hr
  query := gathers_of_combine (fun _ _ => rfl) (fun h hh => (own h hh).query) distinct hr
  body := gathers_of_combine (fun _ _ => rfl) (fun h hh => (own h hh).body) distinct hr
  success := gathers_of_combine (fun _ _ => rfl) (fun h hh => (own h hh).success) distinct hr
  error := gathers_of_combine (fun _ _ => rfl) (fun h hh => (own h hh).error) distinct hr

end Columns

namespace Catalogue

/-! ## building -/

/-- Each chain of the one list has its catalogue at the same place of the other. -/
def Extracted (options : Options) (chains : List (String × Document))
    (sources : List (String × Catalogue)) : Prop :=
  List.Forall₂ (fun chain source => source.1 = chain.1 ∧
    (Source.extract ⟨chain.1, chain.2, options⟩).outcome = .ok source.2) chains sources

variable {options : Options} {chains : List (String × Document)}
  {sources : List (String × Catalogue)}

theorem outcome_buildFrom (extracted : Extracted options chains sources)
    (distinct : (chains.map Prod.fst).Nodup) (seen : List String)
    (unseen : ∀ chain ∈ chains, chain.1 ∉ seen) (c : Catalogue) :
    (buildFrom options seen c chains).outcome = .ok ((sources.map Prod.snd).foldl merge c) := by
  induction extracted generalizing seen c with
  | nil => rfl
  | @cons chain source chains sources hfirst _ ih =>
    obtain ⟨name, document⟩ := chain
    rw [List.map_cons, List.nodup_cons] at distinct
    rw [buildFrom, if_neg (unseen _ List.mem_cons_self)]
    refine Logged.outcome_bind_eq_ok.2
      ⟨source.2, Logged.outcome_mapError_eq_ok.2 hfirst.2, ?_⟩
    refine Logged.outcome_bind_eq_ok.2 ⟨merge c source.2, rfl, ?_⟩
    refine ih distinct.2 _ ?_ _
    intro chain hmem hseen
    rcases List.mem_append.1 hseen with hseen | hname
    · exact unseen chain (List.mem_cons_of_mem _ hmem) hseen
    · have hmem' : chain.1 ∈ chains.map Prod.fst := List.mem_map_of_mem hmem
      exact distinct.1 (List.mem_singleton.1 hname ▸ hmem')

/-- Building a catalogue is merging those of the single chains. -/
theorem outcome_build (nonempty : chains ≠ []) (distinct : (chains.map Prod.fst).Nodup)
    (extracted : Extracted options chains sources) :
    (build options chains).outcome = .ok (mergeAll (sources.map Prod.snd)) := by
  have hfalse : chains.isEmpty = false := by simpa using nonempty
  rw [build, hfalse]
  exact outcome_buildFrom extracted distinct [] (fun _ _ => List.not_mem_nil) ∅

/-- Each element of the one list has a partner in the other. -/
theorem exists_of_mem_forall₂ {rel : α → β → Prop} {l : List α} {m : List β}
    (h : List.Forall₂ rel l m) {a : α} (ha : a ∈ l) : ∃ b ∈ m, rel a b := by
  induction h with
  | nil => contradiction
  | cons hfirst _ ih =>
    rcases List.mem_cons.1 ha with rfl | ha
    · exact ⟨_, List.mem_cons_self, hfirst⟩
    · obtain ⟨b, hb, hrel⟩ := ih ha
      exact ⟨b, List.mem_cons_of_mem _ hb, hrel⟩

/-- If all documents are extracted, then there is a list of what they come to. -/
theorem exists_extracted
    (h : ∀ chain ∈ chains, ∃ c, (Source.extract ⟨chain.1, chain.2, options⟩).outcome = .ok c) :
    ∃ sources, Extracted options chains sources := by
  induction chains with
  | nil => exact ⟨[], .nil⟩
  | cons chain chains ih =>
    obtain ⟨c, hc⟩ := h chain List.mem_cons_self
    obtain ⟨sources, hsources⟩ := ih fun chain hmem => h chain (List.mem_cons_of_mem _ hmem)
    exact ⟨(chain.1, c) :: sources, .cons ⟨rfl, hc⟩ hsources⟩

/-- What further chains come to does not change what the chains before them come to. -/
theorem Extracted.exists_append {more : List (String × Document)}
    {sources' : List (String × Catalogue)} (h : Extracted options chains sources)
    (h' : Extracted options (chains ++ more) sources') : ∃ rest, sources' = sources ++ rest := by
  induction h generalizing sources' with
  | nil => exact ⟨sources', rfl⟩
  | cons hfirst _ ih =>
    cases h' with
    | cons hfirst' hrest' =>
      obtain ⟨rest, rfl⟩ := ih hrest'
      have hsame := Prod.ext (hfirst'.1.trans hfirst.1.symm)
        (Except.ok.inj (hfirst'.2.symm.trans hfirst.2))
      exact ⟨rest, by rw [hsame, List.cons_append]⟩

/-- Chains that are merged into a catalogue are new and distinct, and each is extracted. -/
theorem exists_extracted_of_buildFrom {seen : List String} {c d : Catalogue}
    (built : (buildFrom options seen c chains).outcome = .ok d) :
    (∀ chain ∈ chains, chain.1 ∉ seen) ∧ (chains.map Prod.fst).Nodup ∧
      ∃ sources, Extracted options chains sources := by
  induction chains generalizing seen c with
  | nil => exact ⟨nofun, .nil, [], .nil⟩
  | cons chain chains ih =>
    obtain ⟨name, document⟩ := chain
    rw [buildFrom] at built
    split at built
    · contradiction
    · next unseen =>
      obtain ⟨incoming, hextract, built⟩ := Logged.outcome_bind_eq_ok.1 built
      obtain ⟨merged, -, built⟩ := Logged.outcome_bind_eq_ok.1 built
      obtain ⟨hnew, hdistinct, sources, hsources⟩ := ih built
      refine ⟨?_, ?_, (name, incoming) :: sources,
        .cons ⟨rfl, Logged.outcome_mapError_eq_ok.1 hextract⟩ hsources⟩
      · refine List.forall_mem_cons.2 ⟨unseen, fun chain hmem hseen => ?_⟩
        exact hnew chain hmem (List.mem_append_left _ hseen)
      · rw [List.map_cons, List.nodup_cons]
        refine ⟨fun hmem => ?_, hdistinct⟩
        obtain ⟨chain, hchain, hname⟩ := List.mem_map.1 hmem
        exact hnew chain hchain (List.mem_append_right _ (List.mem_singleton.2 hname))

/-- A catalogue that is built is merged from those of the single chains, which are at least
one and distinct. -/
theorem exists_extracted_of_build {c : Catalogue} (built : (build options chains).outcome = .ok c) :
    chains ≠ [] ∧ (chains.map Prod.fst).Nodup ∧
      ∃ sources, Extracted options chains sources ∧ c = mergeAll (sources.map Prod.snd) := by
  have nonempty : chains ≠ [] := by
    rintro rfl
    contradiction
  have hfalse : chains.isEmpty = false := by simpa using nonempty
  have hfrom := built
  rw [build, hfalse] at hfrom
  obtain ⟨-, distinct, sources, extracted⟩ := exists_extracted_of_buildFrom hfrom
  rw [outcome_build nonempty distinct extracted, Except.ok.injEq] at built
  exact ⟨nonempty, distinct, sources, extracted, built.symm⟩

theorem names_of_extracted (extracted : Extracted options chains sources) :
    sources.map Prod.fst = chains.map Prod.fst := by
  induction extracted with
  | nil => rfl
  | cons hfirst _ ih => rw [List.map_cons, List.map_cons, hfirst.1, ih]

theorem covers_of_extracted (extracted : Extracted options chains sources) :
    ∀ source ∈ sources, ∀ id r, source.2.get? id = some r → r.Covers [source.1] := by
  induction extracted with
  | nil => intro source hmem; simp at hmem
  | cons hfirst _ ih =>
    intro source hmem id r hr
    rcases List.mem_cons.1 hmem with rfl | hmem
    · rw [hfirst.1]
      exact Source.covers_extract hfirst.2 hr
    · exact ih source hmem id r hr

/-- The chains whose catalogue has an operation, each with its record of it. -/
def holders (id : String) (sources : List (String × Catalogue)) :
    List (String × OperationTypes) :=
  sources.filterMap fun source => (source.2.get? id).map fun r => (source.1, r)

theorem map_snd_holders (id : String) (sources : List (String × Catalogue)) :
    (holders id sources).map Prod.snd =
      (sources.map Prod.snd).filterMap fun c => c.get? id := by
  rw [holders, List.map_filterMap, List.filterMap_map]
  refine List.filterMap_congr fun source _ => ?_
  rw [Function.comp_apply, Option.map_map]
  exact Option.map_id'

theorem map_fst_holders_sublist (id : String) (sources : List (String × Catalogue)) :
    ((holders id sources).map Prod.fst).Sublist (sources.map Prod.fst) := by
  induction sources with
  | nil => exact .slnil
  | cons source sources ih =>
    rw [holders, List.filterMap_cons]
    cases source.2.get? id with
    | none => exact ih.cons _
    | some r => exact ih.cons_cons _

/-- The operations of a built catalogue are those of the chains in order, without the
later repetitions, and each of its records is gathered from those of the chains that
have the operation. -/
theorem build_gathers (nonempty : chains ≠ []) (distinct : (chains.map Prod.fst).Nodup)
    (extracted : Extracted options chains sources) :
    ∃ c, (build options chains).outcome = .ok c ∧
      c.keys = (sources.flatMap fun source => source.2.keys).eraseDups ∧
      ∀ id r, c.get? id = some r → r.GatheredFrom (holders id sources) := by
  refine ⟨_, outcome_build nonempty distinct extracted, ?_, ?_⟩
  · rw [keys_mergeAll, List.flatMap_map]
  · intro id r hr
    rw [get?_mergeAll, ← map_snd_holders] at hr
    refine gatheredFrom_of_combine ?_ ?_ hr
    · intro h hmem
      obtain ⟨source, hsource, hh⟩ := List.mem_filterMap.1 hmem
      obtain ⟨r', hr', rfl⟩ := Option.map_eq_some_iff.1 hh
      exact covers_of_extracted extracted source hsource id r' hr'
    · rw [← names_of_extracted extracted] at distinct
      exact distinct.sublist (map_fst_holders_sublist id sources)

/-- A path with an operation that has neither parameters nor responses. -/
def barePath (id : String) (summary : Option String) : PathItem where
  get := some { operationId := some id, summary }

/-- The record of such an operation. -/
def bareRecord (chain path : String) (comment : Option String) : OperationTypes where
  method := .get
  comment
  endpoint := .singleton chain ⟨path, path⟩
  path := .singleton chain undefinedType
  query := .singleton chain undefinedType
  body := .singleton chain undefinedType
  success := .singleton chain "unknown"
  error := .singleton chain "unknown"

/-- Two chains that share an operation, on which only the second one has a comment. -/
def sharedChains : List (String × Document) :=
  [("kyve", { paths := .singleton "/bank" (barePath "Balance" none) }),
    ("osmosis", { paths := ⟨[("/supply", barePath "Supply" none),
      ("/bank", barePath "Balance" (some "of an account"))], by decide⟩ })]

/-- Their catalogues. -/
def sharedSources : List (String × Catalogue) :=
  [("kyve", .singleton "Balance" (bareRecord "kyve" "/bank" none)),
    ("osmosis", ⟨[("Supply", bareRecord "osmosis" "/supply" none),
      ("Balance", bareRecord "osmosis" "/bank" (some "of an account"))], by decide⟩)]

theorem build_gathers_sharedChains :
    Extracted {} sharedChains sharedSources ∧
      ∃ c, (build {} sharedChains).outcome = .ok c ∧ c.keys = ["Balance", "Supply"] ∧
        ∀ r, c.get? "Balance" = some r →
          r.GatheredFrom [("kyve", bareRecord "kyve" "/bank" none),
            ("osmosis", bareRecord "osmosis" "/bank" (some "of an account"))] := by
  have extracted : Extracted {} sharedChains sharedSources :=
    .cons ⟨rfl, rfl⟩ (.cons ⟨rfl, rfl⟩ .nil)
  obtain ⟨c, hbuild, hkeys, hgathered⟩ :=
    build_gathers (by decide) (by decide) extracted
  exact ⟨extracted, c, hbuild, hkeys, hgathered "Balance"⟩

end Catalogue

end ChainApi
