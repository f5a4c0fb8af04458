import ChainApi.Proofs.Alike
import ChainApi.Proofs.Layout

/-!
# ChainApi.Proofs.Nesting

Where a written type ends.  In a block of several chains the further lines of a type
stand in the same column as the entries of the next chains, so that the end of a type
cannot be told from the layout.  It can be told from the braces: a line break ends
the type unless it stands inside of braces, or closes a comment.

* `Enclosed` — texts in which every line break is of one of these kinds;
* `TypeText.enclosed` — types are such texts, if remarks have a single line and keys
  are free of braces and slashes;
* `takeType`, `takeType_append` — a scan that stops at the end of such a text;
* `dropPads_indentLines` — the indentation of a type can be undone.
-/

namespace ChainApi

/-- The characters that guide a scan for the end of a type. -/
def scanMarks : List Char := ['\n', '/', '{', '}']

/-- Texts whose braces are closed, and whose line breaks stand inside of braces or close
a comment.  The text itself may stand inside of braces. -/
inductive Enclosed : (inside : Bool) → List Char → Prop
  | nil {inside : Bool} : Enclosed inside []
  | append {inside : Bool} {s t : List Char} (hs : Enclosed inside s) (ht : Enclosed inside t) :
      Enclosed inside (s ++ t)
  | plain {inside : Bool} {c : Char} (h : c ∉ scanMarks) : Enclosed inside [c]
  | lineBreak : Enclosed true ['\n']
  | comment {inside : Bool} {s : List Char} (h : '\n' ∉ s) : Enclosed inside ('/' :: s ++ ['\n'])
  | braces {inside : Bool} {s : List Char} (h : Enclosed true s) :
      Enclosed inside ('{' :: s ++ ['}'])

namespace Enclosed

variable {inside : Bool} {s : List Char}

/-- A text without marks. -/
theorem of_plain (h : FreeOf scanMarks s) : Enclosed inside s := by
  induction s with
  | nil => exact .nil
  | cons c s ih =>
    exact .append (.plain (h c List.mem_cons_self)) (ih fun d hd => h d (List.mem_cons_of_mem _ hd))

/-- Indenting the further lines keeps a text enclosed. -/
theorem indentLines {blanks : List Char} (hblanks : FreeOf scanMarks blanks)
    (h : Enclosed inside s) : Enclosed inside (Text.indentLines blanks s) := by
  have hpad : ∀ {inside}, Enclosed inside blanks := of_plain hblanks
  induction h with
  | nil => exact .nil
  | append _ _ ihs iht => rw [Text.indentLines_append]; exact .append ihs iht
  | @plain _ c hc =>
    have hbreak : '\n' ∉ [c] := fun hmem => hc (List.mem_singleton.1 hmem ▸ List.mem_cons_self)
    rw [Text.indentLines_eq_self hbreak]
    exact .plain hc
  | lineBreak =>
    rw [Text.indentLines_lineBreak]
    exact .append .lineBreak hpad
  | @comment _ s hs =>
    rw [Text.indentLines_append, Text.indentLines_eq_self (by simp [hs]),
      Text.indentLines_lineBreak, ← List.singleton_append (x := '\n'), ← List.append_assoc]
    exact .append (.comment hs) hpad
  | @braces _ s _ ih =>
    have hopen : '{' :: s = ['{'] ++ s := rfl
    rw [Text.indentLines_append, hopen, Text.indentLines_append,
      Text.indentLines_eq_self (s := ['{']) (by decide),
      Text.indentLines_eq_self (s := ['}']) (by decide)]
    exact .braces ih

end Enclosed

/-! ## the written forms of types -/

/-- What is asked of the texts of a document for its declarations to be read back: names
without colons, keys without marks, and remarks and paths of a single line. -/
def lineRules : TextRules where
  name n := ':' ∉ n.toList
  key k := FreeOf scanMarks k.toList
  remark r := '\n' ∉ r.toList
  path p := '\n' ∉ p.toList

theorem enclosed_commentText {inside : Bool} {c c' : Option String} (h : lineRules.Remarks c c') :
    Enclosed inside (commentText c).toList := by
  cases h with
  | none => exact .nil
  | @some a b blank left right =>
    by_cases ha : a = ""
    · subst ha
      rw [commentText_empty]
      exact .nil
    · have htext : (commentText (some a)).toList =
          '/' :: ("** ".toList ++ a.toList ++ " */".toList) ++ ['\n'] := by
        rw [commentText_some ha]
        simp
      rw [htext]
      refine .comment fun hmem => ?_
      simp only [List.mem_append] at hmem
      rcases hmem with (hmem | hmem) | hmem
      · exact absurd hmem (by decide)
      · exact left hmem
      · exact absurd hmem (by decide)

mutual

theorem TypeExpr.Alike.enclosed {inside : Bool} {t t' : TypeExpr} :
    t.Alike lineRules t' → Enclosed inside t.text.toList
  | .unknown => .of_plain (by decide)
  | .number => .of_plain (by decide)
  | .string => .of_plain (by decide)
  | .boolean => .of_plain (by decide)
  | .array item => by
    rw [text_array, String.toList_append, String.toList_append]
    exact .append (.append (.of_plain (by decide)) item.enclosed) (.of_plain (by decide))
  | .object .nil => .braces .nil
  | .object (.cons comment key type rest) => by
    have hfields := (TypeExpr.FieldsAlike.cons comment key type rest).enclosed
    rw [text, String.toList_append, String.toList_append]
    have hbody : Enclosed inside ('{' :: (_ ++ ['\n']) ++ ['}']) :=
      .braces (.append hfields .lineBreak)
    simpa using hbody

theorem TypeExpr.FieldsAlike.enclosed {fs fs' : List (Option String × String × TypeExpr)} :
    FieldsAlike lineRules fs fs' → Enclosed true (fieldsText fs).toList
  | .nil => by rw [fieldsText_nil]; exact .nil
  | .cons comment key type rest => by
    rw [fieldsText_cons]
    simp only [String.toList_append]
    exact .append (.append (.append (.append (.append .lineBreak (enclosed_commentText comment))
      (.of_plain key)) (.of_plain (by decide))) type.enclosed) rest.enclosed

end

theorem Annotated.Alike.enclosed {inside : Bool} {a a' : Annotated} (h : a.Alike lineRules a') :
    Enclosed inside a.text.toList := by
  rw [Annotated.text, String.toList_append]
  exact .append (enclosed_commentText h.comment) h.type.enclosed

theorem Property.Alike.enclosed {inside : Bool} {p p' : Property} (h : p.Alike lineRules p') :
    Enclosed inside p.text.toList := by
  obtain ⟨a, a', ha, htype, -⟩ := h.type
  rw [Property.text, htype]
  simp only [String.toList_append]
  exact .append (.append (.append (enclosed_commentText h.comment) (.of_plain h.rule))
    (.of_plain (by decide))) ha.enclosed

/-- The types in a catalogue are enclosed. -/
theorem TypeText.enclosed {τ τ' : String} (h : TypeText lineRules τ τ') :
    Enclosed false τ.toList := by
  cases h with
  | response ha => exact ha.enclosed
  | paged ha =>
    rw [String.toList_append]
    exact .append ha.enclosed (.of_plain (by decide))
  | @parameters ps ps' hps =>
    have hlines : Enclosed true (String.join (ps.map fun p => p.text ++ "\n")).toList := by
      induction hps with
      | nil => exact .nil
      | cons hp _ ih =>
        rw [List.map_cons, String.join_cons, String.toList_append, String.toList_append]
        exact .append (.append hp.enclosed .lineBreak) ih
    rw [objectType]
    split
    · exact .of_plain (by decide)
    · have hbody : Enclosed false ('{' :: (['\n'] ++ _) ++ ['}']) :=
        .braces (.append .lineBreak hlines)
      simpa using hbody

/-! ## finding the end -/

/-- Put a text in front of what a scan has taken. -/
def prepend (s : List Char) (taken : Option (List Char × List Char)) :
    Option (List Char × List Char) :=
  taken.map fun r => (s ++ r.1, r.2)

theorem prepend_append (s t : List Char) (taken : Option (List Char × List Char)) :
    prepend (s ++ t) taken = prepend s (prepend t taken) := by
  cases taken <;> simp [prepend]

/-- The number of open braces after a character. -/
def depthAfter (depth : Nat) (c : Char) : Nat :=
  if c = '{' then depth + 1 else if c = '}' then depth - 1 else depth

/-- Take a type: scan for the line break that ends it, which is dropped, with the number
of open braces, and whether a comment is open. -/
def takeType : (depth : Nat) → (comment : Bool) → List Char → Option (List Char × List Char)
  | _, _, [] => none
  | depth, true, c :: cs => prepend [c] (takeType depth (c != '\n') cs)
  | depth, false, c :: cs =>
    if c = '\n' ∧ depth = 0 then some ([], cs)
    else prepend [c] (takeType (depthAfter depth c) (c == '/') cs)

theorem takeType_comment {depth : Nat} {s : List Char} (h : '\n' ∉ s) (rest : List Char) :
    takeType depth true (s ++ '\n' :: rest) =
      prepend (s ++ ['\n']) (takeType depth false rest) := by
  induction s with
  | nil => rfl
  | cons c s ih =>
    rw [List.mem_cons, not_or] at h
    have hc : (c != '\n') = true := by simpa using Ne.symm h.1
    rw [List.cons_append, takeType, hc, ih h.2, ← prepend_append]
    rfl

/-- A scan goes through an enclosed text. -/
theorem takeType_append {inside : Bool} {s : List Char} (h : Enclosed inside s) (depth : Nat)
    (hdepth : inside = true → 0 < depth) (rest : List Char) :
    takeType depth false (s ++ rest) = prepend s (takeType depth false rest) := by
  induction h generalizing depth rest with
  | nil => cases hrest : takeType depth false rest <;> simp [prepend, hrest]
  | append _ _ ihs iht =>
    rw [List.append_assoc, ihs depth hdepth, iht depth hdepth, prepend_append]
  | @plain _ c hc =>
    simp only [scanMarks, List.mem_cons, List.not_mem_nil, or_false, not_or] at hc
    obtain ⟨hbreak, hslash, hopen, hclose⟩ := hc
    have hcomment : (c == '/') = false := by simpa using hslash
    rw [List.singleton_append, takeType, if_neg (fun h => hbreak h.1), depthAfter, if_neg hopen,
      if_neg hclose, hcomment]
  | lineBreak =>
    have hpos := hdepth rfl
    rw [List.singleton_append, takeType, if_neg (by omega)]
    rfl
  | @comment _ s hs =>
    have htext : '/' :: s ++ ['\n'] ++ rest = '/' :: (s ++ '\n' :: rest) := by simp
    have hcomment : takeType (depthAfter depth '/') ('/' == '/') (s ++ '\n' :: rest) =
        takeType depth true (s ++ '\n' :: rest) := rfl
    rw [htext, takeType, if_neg (fun h => absurd h.1 (by decide)), hcomment, takeType_comment hs,
      ← prepend_append]
    rfl
  | @braces _ s _ ih =>
    have htext : '{' :: s ++ ['}'] ++ rest = '{' :: (s ++ '}' :: rest) := by simp
    have hopen : takeType (depthAfter depth '{') ('{' == '/') (s ++ '}' :: rest) =
        takeType (depth + 1) false (s ++ '}' :: rest) := rfl
    have hclose : takeType (depth + 1) false ('}' :: rest) =
        prepend ['}'] (takeType depth false rest) := by
      rw [takeType, if_neg (fun h => absurd h.1 (by decide))]
      rfl
    rw [htext, takeType, if_neg (fun h => absurd h.1 (by decide)), hopen,
      ih (depth + 1) (fun _ => Nat.succ_pos _), hclose, ← prepend_append, ← prepend_append]
    rfl

/-! ## indentation -/

/-- Drop a number of characters after each line break, and `skip` of them first. -/
def dropPads (width : Nat) : (skip : Nat) → List Char → List Char
  | _, [] => []
  | skip + 1, _ :: cs => dropPads width skip cs
  | 0, c :: cs => c :: dropPads width (if c = '\n' then width else 0) cs

theorem dropPads_pad (width : Nat) (blanks s : List Char) :
    dropPads width blanks.length (blanks ++ s) = dropPads width 0 s := by
  induction blanks with
  | nil => rfl
  | cons c blanks ih => rw [List.length_cons, List.cons_append, dropPads, ih]

/-- Dropping the indentation undoes it. -/
theorem dropPads_indentLines (blanks s : List Char) :
    dropPads blanks.length 0 (Text.indentLines blanks s) = s := by
  induction s with
  | nil => rfl
  | cons c s ih =>
    rw [← List.singleton_append, Text.indentLines_append]
    by_cases hc : c = '\n'
    · subst hc
      rw [Text.indentLines_lineBreak, List.cons_append, dropPads, if_pos rfl, dropPads_pad, ih]
      rfl
    · have hbreak : '\n' ∉ [c] := fun hmem => hc (List.mem_singleton.1 hmem).symm
      rw [Text.indentLines_eq_self hbreak, List.singleton_append, dropPads, if_neg hc, ih]
      rfl

end ChainApi
