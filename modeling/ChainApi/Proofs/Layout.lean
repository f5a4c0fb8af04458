import ChainApi.Declarations
import Mathlib.Data.List.Basic

/-!
# ChainApi.Proofs.Layout

The declaration file as a list of characters: what stands in front of the operations,
the operations one by one, and what follows them.

* `FreeOf` — texts without certain marks;
* `written` — lines as a single text;
* `head?_keyText` — a key begins like an identifier or with a quote;
* `columnText`, `endpointText`, `OperationTypes.blockText` — the parts of an operation,
  and the operation;
* `Catalogue.unionLine_of_ne_nil` — the members of the union of the chain names;
* `Catalogue.toList_emit`, `Catalogue.lines_eq`, `Catalogue.written_lines` — the file and its
  parts.
-/

namespace ChainApi

/-! ## texts -/

/-- None of some marks occurs in a text. -/
def FreeOf (marks s : List Char) : Prop := ∀ c ∈ s, c ∉ marks

instance (marks s : List Char) : Decidable (FreeOf marks s) :=
  List.decidableBAll (fun c => c ∉ marks) s

/-- Indentation is made of blanks. -/
theorem eq_of_mem_pad {depth : Nat} {c : Char} (h : c ∈ (pad depth).toList) : c = ' ' := by
  induction depth with
  | zero => contradiction
  | succ depth ih =>
    have hpad : (pad (depth + 1)).toList = indent.toList ++ (pad depth).toList := by
      rw [pad, List.replicate_succ, String.join_cons, String.toList_append, pad]
    rw [hpad, List.mem_append] at h
    rcases h with h | h
    · simpa [indent] using h
    · exact ih h

/-- What holds of the parts and of what stands between them holds of the whole, if it is kept
when texts are put together. -/
theorem intercalate_of_append {P : List Char → Prop} (nil : P [])
    (append : ∀ xs ys, P xs → P ys → P (xs ++ ys)) {sep : String} {parts : List String}
    (hsep : P sep.toList) (h : ∀ part ∈ parts, P part.toList) :
    P (sep.intercalate parts).toList := by
  induction parts with
  | nil => exact nil
  | cons part parts ih =>
    have hfirst := h part List.mem_cons_self
    have hrest := ih fun other hmem => h other (List.mem_cons_of_mem _ hmem)
    cases parts with
    | nil => simpa using hfirst
    | cons other parts =>
      rw [String.intercalate_cons_cons, String.toList_append, String.toList_append]
      exact append _ _ (append _ _ hfirst hsep) hrest

/-! ## lines -/

/-- Lines one after the other, each with a line break at its end. -/
def written (lines : List String) : List Char := lines.flatMap fun line => line.toList ++ ['\n']

@[simp] theorem written_nil : written [] = [] := rfl

@[simp] theorem written_cons (line : String) (lines : List String) :
    written (line :: lines) = line.toList ++ '\n' :: written lines := by
  simp [written]

@[simp] theorem written_append (lines lines' : List String) :
    written (lines ++ lines') = written lines ++ written lines' := by
  simp [written]

theorem written_flatMap (es : List α) (f : α → List String) :
    written (es.flatMap f) = es.flatMap fun e => written (f e) := by
  rw [written, List.flatMap_assoc]
  rfl

theorem Catalogue.toList_emit (c : Catalogue) (includePagination : Bool) :
    (c.emit includePagination).toList = written (c.lines includePagination) := by
  rw [emit]
  induction c.lines includePagination with
  | nil => rfl
  | cons line lines ih =>
    rw [List.map_cons, String.join_cons, String.toList_append, ih, written_cons]
    simp

/-! ## keys -/

theorem toList_quoted (s : String) : (quoted s).toList = '\'' :: s.toList ++ ['\''] := by
  simp [quoted]

/-- A key begins like an identifier or with a quote. -/
theorem head?_keyText {name : String} {c : Char} (h : (keyText name).toList.head? = some c) :
    (Text.isIdentifier name.toList = true ∧ Text.isIdentifierStart c = true) ∨
      (Text.isIdentifier name.toList = false ∧ c = '\'') := by
  rw [keyText] at h
  split at h
  · next hid =>
    obtain ⟨cs, hcs⟩ : ∃ cs, name.toList = c :: cs := by
      cases hname : name.toList with
      | nil => rw [hname] at h; contradiction
      | cons d ds =>
        rw [hname, List.head?_cons, Option.some.injEq] at h
        exact ⟨ds, by rw [h]⟩
    have hstart := hid
    rw [hcs, Text.isIdentifier, Bool.and_eq_true] at hstart
    exact .inl ⟨hid, hstart.1⟩
  · next hid =>
    rw [toList_quoted, List.cons_append, List.head?_cons, Option.some.injEq] at h
    exact .inr ⟨by simpa using hid, h.symm⟩

theorem not_mem_keyText {name : String} {c : Char} (h : c ∉ name.toList) (hquote : c ≠ '\'') :
    c ∉ (keyText name).toList := by
  rw [keyText]
  split
  · exact h
  · rw [toList_quoted]
    simp [h, hquote]

/-! ## operations -/

/-- The entry of a chain in a column, without the indentation in front of it. -/
def entryText (e : String × String) : List Char :=
  (keyText e.1).toList ++ [':'] ++ ([' '] ++ ((indented e.2 4).toList ++ ['\n']))

/-- A column of types. -/
def columnText (label : String) (types : Table String) : List Char :=
  (pad 3 ++ label ++ ": \x7b\n").toList ++
    (types.entries.flatMap (fun e => (pad 4).toList ++ entryText e) ++ (pad 3 ++ "\x7d\n").toList)

theorem written_chainBlock (label : String) (types : Table String) :
    written (chainBlock label types 3) = columnText label types := by
  have hentries : written (types.entries.map fun e =>
      pad 4 ++ keyText e.1 ++ ": " ++ indented e.2 4) =
      types.entries.flatMap fun e => (pad 4).toList ++ entryText e := by
    induction types.entries with
    | nil => rfl
    | cons e es ih => simp [ih, entryText]
  rw [chainBlock, columnText, written_append, written_cons, hentries]
  simp

/-- The endpoint of a chain, without the indentation in front of it. -/
def endpointText (e : String × Endpoint) : List Char :=
  "/** '".toList ++ (e.2.comment.toList ++ "' */".toList ++ ['\n'] ++ ((pad 3).toList ++
    ((keyText e.1).toList ++ [':'] ++ (" `".toList ++ (e.2.path.toList ++ "`".toList ++ ['\n'])))))

theorem written_endpoints (t : Table Endpoint) :
    written (t.entries.flatMap fun e => endpointLines e.1 e.2) =
      t.entries.flatMap fun e => (pad 3).toList ++ endpointText e := by
  rw [written_flatMap]
  refine List.flatMap_congr fun e _ => ?_
  simp [endpointLines, endpointText]

/-- The comment of an operation, if there is one, and its id, without the indentation in
front of them. -/
def headText (comment : Option String) (id : String) : List Char :=
  match comment with
  | none => (keyText id).toList ++ [':']
  | some c => "/** ".toList ++ (c.toList ++ " */".toList ++ ['\n'] ++ ((pad 1).toList ++
      ((keyText id).toList ++ [':'])))

theorem written_commentLines (comment : Option String) (id : String) :
    written (commentLines comment) ++ (pad 1).toList ++ (keyText id).toList ++ [':'] =
      (pad 1).toList ++ headText (comment.filter (· ≠ "")) id := by
  cases comment with
  | none => simp [commentLines, headText]
  | some c =>
    by_cases hc : c = ""
    · simp [commentLines, headText, Option.filter, hc]
    · simp [commentLines, headText, Option.filter, hc]

/-- What follows the id of an operation, up to its method. -/
def methodText (method : Method) : List Char :=
  (" \x7b\n" ++ pad 2 ++ "method: '").toList ++ (method.label.toList ++ "'".toList ++ ['\n'])

namespace OperationTypes

/-- A record whose comment says something, if it has one. -/
def withoutEmptyComment (r : OperationTypes) : OperationTypes :=
  { r with comment := r.comment.filter (· ≠ "") }

/-- An operation, without the indentation in front of it. -/
def blockText (id : String) (r : OperationTypes) : List Char :=
  headText r.withoutEmptyComment.comment id ++ (methodText r.method ++
    ((pad 2 ++ "endpoint: \x7b\n").toList ++
    (r.endpoint.entries.flatMap (fun e => (pad 3).toList ++ endpointText e) ++
      (pad 2 ++ "\x7d\n").toList ++
    ((pad 2 ++ "params: \x7b\n").toList ++ (columnText "path" r.path ++
    (columnText "query" r.query ++ (columnText "body" r.body ++
    ((pad 2 ++ "\x7d\n" ++ pad 2 ++ "response: \x7b\n").toList ++
    (columnText "success" r.success ++ (columnText "error" r.error ++
    (pad 2 ++ "\x7d\n" ++ pad 1 ++ "\x7d\n").toList))))))))))

theorem written_lines (id : String) (r : OperationTypes) :
    written (r.lines id) = (pad 1).toList ++ r.blockText id := by
  rw [lines, blockText, methodText, withoutEmptyComment]
  have hhead := written_commentLines r.comment id
  simp only [written_append, written_chainBlock, written_endpoints, written_cons, written_nil,
    ← List.append_assoc, String.toList_append, ← hhead]
  simp

end OperationTypes

/-! ## the file -/

namespace Catalogue

/-- The file up to the first operation. -/
def introLines (includePagination : Bool) : List String :=
  [headerLine, ""] ++ lookupTypes.flatMap LookupType.lines ++
    (if includePagination then pagingLines else []) ++
    ["/** Stores everything related to Rest API. */", "export interface RestApi \x7b"]

/-- The line that declares the union of the chain names. -/
def unionLine (c : Catalogue) : String := "export type ChainName = " ++ chainUnion c.chainNames

theorem unionLine_eq (c : Catalogue) :
    c.unionLine = "export type ChainName = " ++ chainUnion c.chainNames := rfl

theorem unionLine_of_eq_nil {c : Catalogue} (h : c.chainNames = []) :
    c.unionLine = "export type ChainName = never" := by
  have hnever : chainUnion [] = "never" := rfl
  rw [unionLine_eq, h, hnever]
  decide

/-- The members of the union are the chain names in single quotes. -/
theorem unionLine_of_ne_nil {c : Catalogue} (h : c.chainNames ≠ []) :
    c.unionLine = "export type ChainName = " ++
      " | ".intercalate (c.chainNames.map fun chain => "'" ++ chain ++ "'") := by
  have hsome : ¬ c.chainNames.isEmpty = true := by simpa using h
  rw [unionLine_eq, chainUnion, if_neg hsome]
  rfl

/-- The file from the end of the last operation. -/
def outroLines (c : Catalogue) : List String :=
  ["", "/** Represent any of the available chain names. */",
    "export type ChainName = " ++ chainUnion c.chainNames, "",
    "/** Represent any of the available operation IDs. */",
    "export type OperationId = keyof RestApi"]

theorem unionLine_mem_outroLines (c : Catalogue) : c.unionLine ∈ c.outroLines :=
  List.mem_cons_of_mem _ (List.mem_cons_of_mem _ List.mem_cons_self)

/-- The file is what stands in front of the operations, the operations, and what follows. -/
theorem lines_eq (c : Catalogue) (includePagination : Bool) :
    c.lines includePagination = introLines includePagination ++
      (c.entries.flatMap (fun e => e.2.lines e.1) ++ ["\x7d"]) ++ c.outroLines := by
  simp [lines, introLines, outroLines]

theorem unionLine_mem_lines (c : Catalogue) (includePagination : Bool) :
    c.unionLine ∈ c.lines includePagination := by
  rw [lines_eq]
  exact List.mem_append_right _ c.unionLine_mem_outroLines

theorem written_lines (c : Catalogue) (includePagination : Bool) :
    written (c.lines includePagination) = written (introLines includePagination) ++
      (c.entries.flatMap (fun e => (pad 1).toList ++ e.2.blockText e.1) ++ "\x7d\n".toList) ++
      written c.outroLines := by
  have hoperations : (c.entries.flatMap fun e => written (e.2.lines e.1)) =
      c.entries.flatMap fun e => (pad 1).toList ++ e.2.blockText e.1 :=
    List.flatMap_congr fun e _ => e.2.written_lines e.1
  rw [lines_eq, written_append, written_append, written_append, written_flatMap, hoperations]
  rfl

end Catalogue

end ChainApi
