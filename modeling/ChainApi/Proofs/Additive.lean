import ChainApi.Proofs.Build
import ChainApi.Proofs.Layout
import Mathlib.Data.List.Flatten

/-!
# ChainApi.Proofs.Additive

Declaration files that only grow.  Where a catalogue is merged with another one, its
operations and the entries of its columns keep their places and their texts, and the new
ones follow; so each line of its file is still there, in the same order, between the
lines that are added.  The union of the chain names is the only declaration that changes.

* `textLines` — the lines of a text;
* `OperationTypes.lines_sublist_merge` — the block of an operation only grows;
* `Catalogue.stableLines` — the lines of a file without the union of the chain names;
* `Catalogue.stableLines_sublist_merge` — they only grow;
* `Catalogue.emit_additive` — and so does the file of a list of chains with further ones.
-/

namespace ChainApi

/-! ## the lines of a text -/

/-- The lines of a text: what stands before, between and after its line breaks. -/
def textLines : List Char → List (List Char)
  | [] => [[]]
  | c :: cs => if c = '\n' then [] :: textLines cs else (textLines cs).modifyHead (c :: ·)

theorem textLines_ne_nil (cs : List Char) : textLines cs ≠ [] := by
  induction cs with
  | nil => exact List.cons_ne_nil _ _
  | cons c cs ih =>
    rw [textLines]
    split
    · exact List.cons_ne_nil _ _
    · simpa using ih

/-- At a line break the lines of what follows begin. -/
theorem textLines_append (xs ys : List Char) :
    textLines (xs ++ '\n' :: ys) = textLines xs ++ textLines ys := by
  induction xs with
  | nil => simp [textLines]
  | cons c xs ih =>
    rw [List.cons_append, textLines, textLines, ih]
    split
    · rfl
    · obtain ⟨l, ls, hlines⟩ := List.exists_cons_of_ne_nil (textLines_ne_nil xs)
      rw [hlines]
      rfl

/-- Without a line break there is a single line. -/
theorem textLines_of_not_mem {cs : List Char} (h : '\n' ∉ cs) : textLines cs = [cs] := by
  induction cs with
  | nil => rfl
  | cons c cs ih =>
    rw [List.mem_cons, not_or] at h
    rw [textLines, if_neg (Ne.symm h.1), ih h.2]
    rfl

/-- The lines of written lines; nothing stands after the last line break. -/
theorem textLines_written (lines : List String) :
    textLines (written lines) = lines.flatMap (fun line => textLines line.toList) ++ [[]] := by
  induction lines with
  | nil => rfl
  | cons line lines ih => rw [written_cons, textLines_append, ih, List.flatMap_cons,
      List.append_assoc]

/-- Lines that are added to others leave the lines of these where they are. -/
theorem textLines_written_sublist {lines lines' : List String} (h : lines.Sublist lines') :
    (textLines (written lines)).Sublist (textLines (written lines')) := by
  rw [textLines_written, textLines_written]
  exact (h.flatMap _).append (.refl _)

/-- The lines of a written line stand between those of the lines around it. -/
theorem textLines_written_around (before after : List String) (line : String) :
    ∃ front back, textLines (written (before ++ after)) = front ++ back ∧
      textLines (written (before ++ line :: after)) =
        front ++ textLines line.toList ++ back := by
  refine ⟨before.flatMap fun line => textLines line.toList,
    after.flatMap (fun line => textLines line.toList) ++ [[]], ?_, ?_⟩
  · rw [textLines_written, List.flatMap_append, List.append_assoc]
  · rw [textLines_written, List.flatMap_append, List.flatMap_cons]
    simp only [List.append_assoc]

/-! ## operations -/

theorem commentLines_sublist_or (a b : Option String) :
    (commentLines a).Sublist (commentLines (a.or b)) := by
  cases a with
  | none => exact List.nil_sublist _
  | some c => exact .refl _

theorem entries_sublist_union (s t : Table α) : s.entries.Sublist (s.union t).entries := by
  rw [Table.entries_union]
  exact List.sublist_append_left _ _

theorem chainBlock_sublist_union (label : String) (s t : Table String) (depth : Nat) :
    (chainBlock label s depth).Sublist (chainBlock label (s.union t) depth) :=
  (((entries_sublist_union s t).map _).cons_cons _).append (.refl _)

/-- The block of an operation only grows when its record is merged with another one. -/
theorem OperationTypes.lines_sublist_merge (id : String) (r s : OperationTypes) :
    (r.lines id).Sublist ((r.merge s).lines id) := by
  have hcomment := commentLines_sublist_or r.comment s.comment
  have hendpoint := (entries_sublist_union r.endpoint s.endpoint).flatMap
    fun e => endpointLines e.1 e.2
  have hpath := chainBlock_sublist_union "path" r.path s.path 3
  have hquery := chainBlock_sublist_union "query" r.query s.query 3
  have hbody := chainBlock_sublist_union "body" r.body s.body 3
  have hsuccess := chainBlock_sublist_union "success" r.success s.success 3
  have herror := chainBlock_sublist_union "error" r.error s.error 3
  exact (((((((((hcomment.append (.refl _)).append hendpoint).append (.refl _)).append
    hpath).append hquery).append hbody).append (.refl _)).append hsuccess).append
    herror).append (.refl _)

/-! ## the file -/

namespace Catalogue

/-- The file up to the union of the chain names. -/
def linesBeforeUnion (c : Catalogue) (includePagination : Bool) : List String :=
  introLines includePagination ++ (c.entries.flatMap (fun e => e.2.lines e.1) ++ ["\x7d"]) ++
    ["", "/** Represent any of the available chain names. */"]

/-- The file after the union of the chain names. -/
def linesAfterUnion : List String :=
  ["", "/** Represent any of the available operation IDs. */",
    "export type OperationId = keyof RestApi"]

theorem lines_eq_around_union (c : Catalogue) (includePagination : Bool) :
    c.lines includePagination =
      c.linesBeforeUnion includePagination ++ c.unionLine :: linesAfterUnion := by
  have houtro : c.outroLines =
      ["", "/** Represent any of the available chain names. */"] ++
        c.unionLine :: linesAfterUnion := rfl
  rw [lines_eq, linesBeforeUnion, houtro, ← List.append_assoc]

/-- The lines of the file without the declaration of the union of the chain names, which is
a single line unless the name of a chain has a line break. -/
def stableLines (c : Catalogue) (includePagination : Bool) : List (List Char) :=
  textLines (written (c.linesBeforeUnion includePagination ++ linesAfterUnion))

/-- The lines of the file are those without the union, and in between those of the union. -/
theorem textLines_emit (c : Catalogue) (includePagination : Bool) : ∃ front back,
    c.stableLines includePagination = front ++ back ∧
      textLines (c.emit includePagination).toList =
        front ++ textLines c.unionLine.toList ++ back := by
  rw [stableLines, toList_emit, lines_eq_around_union]
  exact textLines_written_around _ _ _

/-- The union is a single line if each of the names is. -/
theorem textLines_unionLine {c : Catalogue} (h : ∀ chain ∈ c.chainNames, '\n' ∉ chain.toList) :
    textLines c.unionLine.toList = [c.unionLine.toList] := by
  have hquoted : ∀ part ∈ c.chainNames.map quoted, '\n' ∉ part.toList := by
    intro part hpart
    obtain ⟨chain, hchain, rfl⟩ := List.mem_map.1 hpart
    rw [toList_quoted]
    simpa using h chain hchain
  have hunion : '\n' ∉ (chainUnion c.chainNames).toList := by
    rw [chainUnion]
    split
    · decide
    · refine intercalate_of_append (P := fun cs => '\n' ∉ cs) List.not_mem_nil ?_ (by decide)
        hquoted
      exact fun _ _ hxs hys hmem => (List.mem_append.1 hmem).elim hxs hys
  have hline : c.unionLine.toList =
      "export type ChainName = ".toList ++ (chainUnion c.chainNames).toList :=
    String.toList_append
  refine textLines_of_not_mem ?_
  rw [hline, List.mem_append]
  rintro (hkeyword | hnames)
  · revert hkeyword
    decide
  · exact hunion hnames

theorem operations_sublist_merge (a b : Catalogue) :
    (a.entries.flatMap fun e => e.2.lines e.1).Sublist
      ((merge a b).entries.flatMap fun e => e.2.lines e.1) := by
  have hgrow : ∀ e ∈ a.entries, (e.2.lines e.1).Sublist
      ((((b.get? e.1).map (e.2.merge ·)).getD e.2).lines e.1) := by
    intro e _
    cases b.get? e.1 with
    | none => exact .refl _
    | some r => exact e.2.lines_sublist_merge e.1 r
  show List.Sublist _ ((a.entries.map _ ++ _).flatMap _)
  rw [List.flatMap_append, List.flatMap_map]
  exact (List.Sublist.flatMap_right _ hgrow).trans (List.sublist_append_left _ _)

/-- Merging with another catalogue leaves the lines of the file where they are, but for the
union of the chain names. -/
theorem stableLines_sublist_merge (a b : Catalogue) (includePagination : Bool) :
    (a.stableLines includePagination).Sublist ((merge a b).stableLines includePagination) := by
  refine textLines_written_sublist (List.Sublist.append ?_ (.refl _))
  exact ((List.Sublist.refl _).append ((operations_sublist_merge a b).append (.refl _))).append
    (.refl _)

/-! ## further chains -/

variable {options : Options} {chains more : List (String × Document)} {c d : Catalogue}

/-- What further chains come to is merged into what the chains before them come to. -/
theorem exists_eq_merge_of_build (built : (build options chains).outcome = .ok c)
    (extended : (build options (chains ++ more)).outcome = .ok d) : ∃ rest, d = merge c rest := by
  obtain ⟨-, -, sources, extracted, rfl⟩ := exists_extracted_of_build built
  obtain ⟨-, -, sources', extracted', rfl⟩ := exists_extracted_of_build extended
  obtain ⟨rest, rfl⟩ := extracted.exists_append extracted'
  exact ⟨mergeAll (rest.map Prod.snd), by rw [List.map_append, mergeAll_append]⟩

/-- **Further data only adds lines.**  The lines of a file are those of the union of the chain
names and the stable ones around them.  When a catalogue is merged with another one, its
stable lines are among those of the merge, in the same order; and so they are when the
catalogue of a list of chains is built with further chains. -/
theorem emit_additive :
    (∀ (c : Catalogue) (includePagination : Bool),
      (∃ front back, c.stableLines includePagination = front ++ back ∧
        textLines (c.emit includePagination).toList =
          front ++ textLines c.unionLine.toList ++ back) ∧
      ((∀ chain ∈ c.chainNames, '\n' ∉ chain.toList) →
        textLines c.unionLine.toList = [c.unionLine.toList])) ∧
    (∀ (a b : Catalogue) (includePagination : Bool),
      (a.stableLines includePagination).Sublist ((merge a b).stableLines includePagination)) ∧
    ∀ (options : Options) (chains more : List (String × Document)) (c d : Catalogue)
      (includePagination : Bool), (build options chains).outcome = .ok c →
      (build options (chains ++ more)).outcome = .ok d →
      (c.stableLines includePagination).Sublist (d.stableLines includePagination) := by
  refine ⟨fun c p => ⟨textLines_emit c p, textLines_unionLine⟩, stableLines_sublist_merge, ?_⟩
  intro options chains more c d p built extended
  obtain ⟨rest, rfl⟩ := exists_eq_merge_of_build built extended
  exact stableLines_sublist_merge c rest p

/-- A chain, and a second one that shares its operation. -/
theorem emit_additive_sharedChains :
    ∃ c d, (build {} (sharedChains.take 1)).outcome = .ok c ∧
      (build {} (sharedChains.take 1 ++ sharedChains.drop 1)).outcome = .ok d ∧
      c.chainNames = ["kyve"] ∧ d.chainNames = ["kyve", "osmosis"] ∧
      textLines c.unionLine.toList = [c.unionLine.toList] ∧
      (c.stableLines true).Sublist (d.stableLines true) := by
  obtain ⟨hfile, -, hbuilt⟩ := emit_additive
  have hadded := hbuilt {} (sharedChains.take 1) (sharedChains.drop 1) _ _ true rfl rfl
  exact ⟨_, _, rfl, rfl, by decide, by decide, (hfile _ true).2 (by decide), hadded⟩

end Catalogue

end ChainApi
