import ChainApi.Proofs.Build
import ChainApi.Proofs.Layout

/-!
# ChainApi.Proofs.Alignment

The six columns of a record have entries for the same chains in the same order.  This is
so for a single chain, and merging keeps it, since the keys of a union are known from the
keys of its parts.  The names of the chains can then be read off any of the columns, and
the union of the chain names in the declaration file covers every key that is written.

* `OperationTypes.Aligned`, `Catalogue.Aligned` — records whose columns have the same keys;
* `Catalogue.Aligned.merge` — merging keeps them aligned;
* `Catalogue.mem_chainNames_mergeAll` — the chains of a merge of many catalogues;
* `OperationTypes.ChainLine` — the lines that a record has for a chain;
* `Catalogue.chainLine_of_mem_lines` — the lines of a file, with and without the chains;
* `Catalogue.build_aligned` — what holds for catalogues that are built.
-/

namespace ChainApi

/-! ## aligned records -/

namespace OperationTypes

variable {r s : OperationTypes} {chains chains' : List String}

/-- A record whose columns have entries for the same chains in the same order; there is at
least one, and none is named twice. -/
def Aligned (r : OperationTypes) : Prop :=
  ∃ chains : List String, chains ≠ [] ∧ chains.Nodup ∧ r.Covers chains

/-- A merged record covers the chains of the left one, then the new ones of the right one. -/
theorem Covers.merge (hr : r.Covers chains) (hs : s.Covers chains') :
    (r.merge s).Covers (chains ++ chains'.filter fun k => !chains.contains k) := by
  have hkeys : ∀ {α : Type} {t t' : Table α}, t.keys = chains → t'.keys = chains' →
      (t.union t').keys = chains ++ chains'.filter fun k => !chains.contains k := by
    rintro α t t' rfl rfl
    exact Table.keys_union t t'
  exact {
    endpoint := hkeys hr.endpoint hs.endpoint
    path := hkeys hr.path hs.path
    query := hkeys hr.query hs.query
    body := hkeys hr.body hs.body
    success := hkeys hr.success hs.success
    error := hkeys hr.error hs.error }

theorem Covers.nodup (h : r.Covers chains) : chains.Nodup := h.endpoint ▸ r.endpoint.nodup_keys

theorem Aligned.merge (hr : r.Aligned) (hs : s.Aligned) : (r.merge s).Aligned := by
  obtain ⟨chains, nonempty, -, hr⟩ := hr
  obtain ⟨chains', -, -, hs⟩ := hs
  exact ⟨_, by simp [nonempty], (hr.merge hs).nodup, hr.merge hs⟩

end OperationTypes

/-! ## aligned catalogues -/

namespace Catalogue

variable {a b c : Catalogue} {cs : List Catalogue} {id chain : String} {r : OperationTypes}

/-- A catalogue in which all records are aligned. -/
def Aligned (c : Catalogue) : Prop := ∀ id r, c.get? id = some r → r.Aligned

theorem Aligned.empty : Aligned ∅ := nofun

theorem get?_merge_eq_some (h : (merge a b).get? id = some r) :
    (a.get? id = some r ∧ b.get? id = none) ∨ (a.get? id = none ∧ b.get? id = some r) ∨
      ∃ s t, a.get? id = some s ∧ b.get? id = some t ∧ r = s.merge t := by
  rw [merge, Table.get?_unionWith] at h
  cases ha : a.get? id <;> cases hb : b.get? id <;> simp_all

/-- Merging keeps catalogues aligned. -/
theorem Aligned.merge (ha : a.Aligned) (hb : b.Aligned) : (Catalogue.merge a b).Aligned := by
  intro id r hr
  rcases get?_merge_eq_some hr with ⟨hleft, -⟩ | ⟨-, hright⟩ | ⟨s, t, hs, ht, rfl⟩
  · exact ha id r hleft
  · exact hb id r hright
  · exact (ha id s hs).merge (hb id t ht)

theorem aligned_foldl_merge (ha : a.Aligned) (h : ∀ c ∈ cs, c.Aligned) :
    (cs.foldl Catalogue.merge a).Aligned := by
  induction cs generalizing a with
  | nil => exact ha
  | cons c cs ih =>
    rw [List.forall_mem_cons] at h
    exact ih (ha.merge h.1) h.2

/-! ## the names of the chains -/

theorem mem_chainNames_iff :
    chain ∈ c.chainNames ↔ ∃ id r, c.get? id = some r ∧ chain ∈ r.endpoint.keys := by
  rw [chainNames, List.mem_eraseDups, List.mem_flatMap]
  constructor
  · rintro ⟨r, hr, hchain⟩
    obtain ⟨⟨id, r⟩, he, rfl⟩ := List.mem_map.1 hr
    exact ⟨id, r, Table.get?_of_mem_entries he, hchain⟩
  · rintro ⟨id, r, hr, hchain⟩
    exact ⟨r, List.mem_map.2 ⟨(id, r), Table.mem_entries_of_get? hr, rfl⟩, hchain⟩

theorem mem_keys_union {α : Type} {s t : Table α} :
    chain ∈ (s.union t).keys ↔ chain ∈ s.keys ∨ chain ∈ t.keys := by
  by_cases hs : chain ∈ s.keys <;> simp [Table.keys_union, Table.contains, hs]

/-- The chains of two catalogues are those of their merge. -/
theorem mem_chainNames_merge :
    chain ∈ (merge a b).chainNames ↔ chain ∈ a.chainNames ∨ chain ∈ b.chainNames := by
  simp only [mem_chainNames_iff]
  constructor
  · rintro ⟨id, r, hr, hchain⟩
    rcases get?_merge_eq_some hr with ⟨hleft, -⟩ | ⟨-, hright⟩ | ⟨s, t, hs, ht, rfl⟩
    · exact .inl ⟨id, r, hleft, hchain⟩
    · exact .inr ⟨id, r, hright, hchain⟩
    · exact (mem_keys_union.1 hchain).imp (fun h => ⟨id, s, hs, h⟩) fun h => ⟨id, t, ht, h⟩
  · rintro (⟨id, r, hr, hchain⟩ | ⟨id, r, hr, hchain⟩)
    · cases hb : b.get? id with
      | none => exact ⟨id, r, by rw [merge, Table.get?_unionWith, hr, hb], hchain⟩
      | some s =>
        exact ⟨id, r.merge s, by rw [merge, Table.get?_unionWith, hr, hb],
          mem_keys_union.2 (.inl hchain)⟩
    · cases ha : a.get? id with
      | none => exact ⟨id, r, by rw [merge, Table.get?_unionWith, ha, hr], hchain⟩
      | some s =>
        exact ⟨id, s.merge r, by rw [merge, Table.get?_unionWith, ha, hr],
          mem_keys_union.2 (.inr hchain)⟩

/-- The chains of a list of catalogues are those of their merge. -/
theorem mem_chainNames_mergeAll :
    chain ∈ (mergeAll cs).chainNames ↔ ∃ c ∈ cs, chain ∈ c.chainNames := by
  have hfold : ∀ a, chain ∈ (cs.foldl merge a).chainNames ↔
      chain ∈ a.chainNames ∨ ∃ c ∈ cs, chain ∈ c.chainNames := by
    induction cs with
    | nil => simp
    | cons c cs ih =>
      intro a
      rw [List.foldl_cons, ih, mem_chainNames_merge, or_assoc, List.exists_mem_cons_iff]
  rw [mergeAll, hfold, chainNames_empty]
  simp

end Catalogue

/-! ## the lines of the chains -/

namespace OperationTypes

variable {r : OperationTypes} {id line : String}

/-- The columns of types. -/
def columns (r : OperationTypes) : List (Table String) :=
  [r.path, r.query, r.body, r.success, r.error]

/-- A line that is written for a chain, under its key or as a comment on its endpoint. -/
inductive ChainLine (r : OperationTypes) (chain : String) : String → Prop
  | endpoint {e : Endpoint} {line : String} (held : (chain, e) ∈ r.endpoint.entries)
      (written : line ∈ endpointLines chain e) : ChainLine r chain line
  | type {types : Table String} {type : String} (column : types ∈ r.columns)
      (held : (chain, type) ∈ types.entries) :
      ChainLine r chain (pad 4 ++ keyText chain ++ ": " ++ indented type 4)

/-- A record without anything for any chain. -/
def withoutChains (r : OperationTypes) : OperationTypes where
  method := r.method
  comment := r.comment

theorem mem_chainBlock_iff {label : String} {types : Table String} {depth : Nat} :
    line ∈ chainBlock label types depth ↔ line ∈ chainBlock label ∅ depth ∨
      ∃ chain type, (chain, type) ∈ types.entries ∧
        pad (depth + 1) ++ keyText chain ++ ": " ++ indented type (depth + 1) = line := by
  simp only [chainBlock, List.mem_append, List.mem_cons, List.mem_map, Table.entries_empty,
    List.map_nil, List.not_mem_nil, or_false, Prod.exists]
  exact or_right_comm

/-- Each line of a record is there without the chains, or is written for one of them. -/
theorem chainLine_of_mem_lines (h : line ∈ r.lines id) :
    line ∈ r.withoutChains.lines id ∨ ∃ chain, r.ChainLine chain line := by
  have hcolumn : ∀ label, ∀ types ∈ r.columns, line ∈ chainBlock label types 3 →
      line ∈ chainBlock label ∅ 3 ∨ ∃ chain, r.ChainLine chain line := by
    intro label types htypes hline
    refine (mem_chainBlock_iff.1 hline).imp_right ?_
    rintro ⟨chain, type, held, rfl⟩
    exact ⟨chain, .type htypes held⟩
  have hendpoint : line ∈ r.endpoint.entries.flatMap (fun e => endpointLines e.1 e.2) →
      ∃ chain, r.ChainLine chain line := by
    intro hline
    obtain ⟨⟨chain, e⟩, held, written⟩ := List.mem_flatMap.1 hline
    exact ⟨chain, .endpoint held written⟩
  have hpath := hcolumn "path" r.path (by simp [columns])
  have hquery := hcolumn "query" r.query (by simp [columns])
  have hbody := hcolumn "body" r.body (by simp [columns])
  have hsuccess := hcolumn "success" r.success (by simp [columns])
  have herror := hcolumn "error" r.error (by simp [columns])
  simp only [lines, withoutChains, List.mem_append] at h ⊢
  clear hcolumn
  grind

end OperationTypes

namespace Catalogue

variable {c : Catalogue} {options : Options} {chains : List (String × Document)} {chain : String}

/-- The file without the entries of the chains, but with the union of their names. -/
def frameLines (c : Catalogue) (includePagination : Bool) : List String :=
  introLines includePagination ++
    (c.entries.flatMap (fun e => e.2.withoutChains.lines e.1) ++ ["\x7d"]) ++ c.outroLines

/-- Each line of a file is there without the chains, or is written for one of them. -/
theorem chainLine_of_mem_lines {line : String} {includePagination : Bool}
    (h : line ∈ c.lines includePagination) : line ∈ c.frameLines includePagination ∨
      ∃ id r chain, c.get? id = some r ∧ r.ChainLine chain line := by
  rw [lines_eq] at h
  simp only [frameLines, List.mem_append, List.mem_flatMap] at h ⊢
  rcases h with (hintro | ⟨⟨id, r⟩, he, hline⟩ | hend) | houtro
  · exact .inl (.inl (.inl hintro))
  · rcases OperationTypes.chainLine_of_mem_lines hline with hframe | ⟨chain, hchain⟩
    · exact .inl (.inl (.inr (.inl ⟨(id, r), he, hframe⟩)))
    · exact .inr ⟨id, r, chain, Table.get?_of_mem_entries he, hchain⟩
  · exact .inl (.inl (.inr (.inr hend)))
  · exact .inl (.inr houtro)

/-- The chain that a line is written for has a name in the union. -/
theorem Aligned.mem_chainNames (h : c.Aligned) {id line : String} {r : OperationTypes}
    (hr : c.get? id = some r) (hline : r.ChainLine chain line) : chain ∈ c.chainNames := by
  obtain ⟨covered, -, -, hcovers⟩ := h id r hr
  rw [mem_chainNames_iff]
  refine ⟨id, r, hr, ?_⟩
  cases hline with
  | endpoint held => exact List.mem_map_of_mem held
  | @type types type column held =>
    have hkeys : types.keys = covered := by
      simp only [OperationTypes.columns, List.mem_cons, List.not_mem_nil, or_false] at column
      rcases column with rfl | rfl | rfl | rfl | rfl
      · exact hcovers.path
      · exact hcovers.query
      · exact hcovers.body
      · exact hcovers.success
      · exact hcovers.error
    rw [hcovers.endpoint, ← hkeys]
    exact List.mem_map_of_mem held

/-! ## catalogues that are built -/

/-- A chain that is supplied with a document in which there is an operation. -/
def Contributes (options : Options) (chains : List (String × Document)) (chain : String) : Prop :=
  ∃ document c, (chain, document) ∈ chains ∧
    (Source.extract ⟨chain, document, options⟩).outcome = .ok c ∧ c.keys ≠ []

theorem aligned_of_extract {source : Source} (h : source.extract.outcome = .ok c) : c.Aligned :=
  fun _ _ hr => ⟨[source.chain], List.cons_ne_nil _ _, by simp, Source.covers_extract h hr⟩

/-- The chain of a document is named in its catalogue as soon as there is an operation. -/
theorem mem_chainNames_of_extract {source : Source} (h : source.extract.outcome = .ok c) :
    chain ∈ c.chainNames ↔ chain = source.chain ∧ c.keys ≠ [] := by
  have hkeys : ∀ {id r}, c.get? id = some r → r.endpoint.keys = [source.chain] := fun hr =>
    (Source.covers_extract h hr).endpoint
  rw [mem_chainNames_iff]
  constructor
  · rintro ⟨id, r, hr, hchain⟩
    rw [hkeys hr, List.mem_singleton] at hchain
    exact ⟨hchain, List.ne_nil_of_mem (Table.mem_keys_of_get? hr)⟩
  · rintro ⟨rfl, hne⟩
    obtain ⟨id, hid⟩ := List.exists_mem_of_ne_nil _ hne
    obtain ⟨r, hr⟩ := Option.isSome_iff_exists.1 (Table.isSome_get?_iff.2 hid)
    exact ⟨id, r, hr, hkeys hr ▸ List.mem_singleton_self _⟩

theorem aligned_of_build (built : (build options chains).outcome = .ok c) : c.Aligned := by
  obtain ⟨-, -, sources, extracted, rfl⟩ := exists_extracted_of_build built
  refine aligned_foldl_merge .empty fun d hd => ?_
  obtain ⟨source, hsource, rfl⟩ := List.mem_map.1 hd
  obtain ⟨_, -, -, hextract⟩ := exists_of_mem_forall₂ extracted.flip hsource
  exact aligned_of_extract hextract

theorem mem_chainNames_of_build (built : (build options chains).outcome = .ok c) :
    chain ∈ c.chainNames ↔ Contributes options chains chain := by
  obtain ⟨-, -, sources, extracted, rfl⟩ := exists_extracted_of_build built
  rw [mem_chainNames_mergeAll, Contributes]
  constructor
  · rintro ⟨d, hd, hchain⟩
    obtain ⟨source, hsource, rfl⟩ := List.mem_map.1 hd
    obtain ⟨⟨name, document⟩, hmem, -, hextract⟩ := exists_of_mem_forall₂ extracted.flip hsource
    obtain ⟨rfl, hne⟩ := (mem_chainNames_of_extract hextract).1 hchain
    exact ⟨document, source.2, hmem, hextract, hne⟩
  · rintro ⟨document, d, hmem, hextract, hne⟩
    obtain ⟨source, hsource, -, hsame⟩ := exists_of_mem_forall₂ extracted hmem
    obtain rfl := Except.ok.inj (hextract.symm.trans hsame)
    exact ⟨_, List.mem_map_of_mem hsource, (mem_chainNames_of_extract hextract).2 ⟨rfl, hne⟩⟩

/-- Three chains, the last of which has no operation. -/
def idleChains : List (String × Document) := sharedChains ++ [("evmos", ({} : Document))]

end Catalogue

end ChainApi
