import ChainApi.Proofs.Layout
import ChainApi.Proofs.Lockstep

/-!
# ChainApi.Proofs.Comments

A declaration file without its block comments.  As long as no remark holds the two
characters that end a comment, remarks do not count: files of documents that agree
but for their remarks are the same without comments.  A remark that holds them ends
its comment early, and what follows becomes part of the declarations.

* `scan` — a scan that keeps what stands outside of comments;
* `SameCode` — texts from which it keeps the same;
* `TypeText.sameCode`, `Catalogue.Alike.sameCode` — types and files are such texts;
* `Catalogue.build_sameCode` — the property of two runs;
* `Catalogue.emit_leaks` — a summary from which a declaration leaks.
-/

namespace ChainApi

/-! ## scanning for comments -/

/-- The marks that delimit literals. -/
inductive Quote where
  | single
  | double
  | backtick
  deriving DecidableEq, Repr

/-- The character of a mark. -/
def Quote.char : Quote → Char
  | single => '\''
  | double => '"'
  | backtick => '`'

/-- The mark of a character. -/
def Quote.ofChar? (c : Char) : Option Quote :=
  [single, double, backtick].find? fun q => q.char = c

/-- Where a scan for comments stands. -/
inductive ScanState where
  | code
  /-- After a slash, which may begin a comment. -/
  | slash
  | literal (quote : Quote)
  /-- After a backslash in a literal. -/
  | escape (quote : Quote)
  | comment
  /-- After a star in a comment, which may end it. -/
  | star
  deriving DecidableEq, Repr

namespace ScanState

/-- The state after a character in code. -/
def afterCode (c : Char) : ScanState :=
  if c = '/' then slash else ((Quote.ofChar? c).map literal).getD code

/-- The state after a character. -/
def next : ScanState → Char → ScanState
  | code, c => afterCode c
  | slash, c => if c = '*' then comment else afterCode c
  | literal q, c => if c = '\\' then escape q else if c = q.char then code else literal q
  | escape q, _ => literal q
  | comment, c => if c = '*' then star else comment
  | star, c => if c = '/' then code else if c = '*' then star else comment

/-- What is kept at a character.  A slash is kept once it turns out not to begin a comment. -/
def kept : ScanState → Char → List Char
  | code, c => if c = '/' then [] else [c]
  | slash, c => if c = '*' then [] else if c = '/' then ['/'] else ['/', c]
  | literal _, c => [c]
  | escape _, c => [c]
  | comment, _ => []
  | star, _ => []

/-- What is still to be kept at the end. -/
def pending : ScanState → List Char
  | slash => ['/']
  | _ => []

end ScanState

section Scan

open ScanState

/-- Scan a text: the state at the end, and what is kept. -/
def scan : ScanState → List Char → ScanState × List Char
  | s, [] => (s, [])
  | s, c :: cs => ((scan (s.next c) cs).1, s.kept c ++ (scan (s.next c) cs).2)

/-- A text without its block comments. -/
def withoutComments (text : String) : String :=
  String.ofList ((scan .code text.toList).2 ++ (scan .code text.toList).1.pending)

example : withoutComments "a: 'b /* c */' /* d */ / 2" = "a: 'b /* c */'  / 2" := by decide

variable {s : ScanState} {blanks u v : List Char}

theorem scan_cons (s : ScanState) (c : Char) (cs : List Char) :
    scan s (c :: cs) = ((scan (s.next c) cs).1, s.kept c ++ (scan (s.next c) cs).2) := rfl

theorem scan_append (s : ScanState) (u v : List Char) :
    scan s (u ++ v) = ((scan (scan s u).1 v).1, (scan s u).2 ++ (scan (scan s u).1 v).2) := by
  induction u generalizing s with
  | nil => rfl
  | cons c u ih => rw [List.cons_append, scan_cons, scan_cons, ih, List.append_assoc]

/-- Blanks are kept unless they stand in a comment. -/
theorem scan_blanks (hblanks : ∀ c ∈ blanks, c = ' ') :
    scan .code blanks = (.code, blanks) ∧ scan .comment blanks = (.comment, []) ∧
      ∀ q, scan (.literal q) blanks = (.literal q, blanks) := by
  induction blanks with
  | nil => exact ⟨rfl, rfl, fun _ => rfl⟩
  | cons c blanks ih =>
    obtain ⟨hcode, hcomment, hliteral⟩ := ih fun d hd => hblanks d (List.mem_cons_of_mem _ hd)
    have hc : c = ' ' := hblanks c List.mem_cons_self
    subst hc
    refine ⟨?_, ?_, fun q => ?_⟩
    · rw [scan_cons, show next .code ' ' = .code from rfl, hcode]
      rfl
    · rw [scan_cons, show next .comment ' ' = .comment from rfl, hcomment]
      rfl
    · rw [scan_cons, show next (.literal q) ' ' = .literal q by cases q <;> rfl, hliteral]
      rfl

/-- A line break and the blanks after it are kept, or not, together. -/
theorem scan_lineBreak (hblanks : ∀ c ∈ blanks, c = ' ') (s : ScanState) :
    scan s ('\n' :: blanks) = (s.next '\n', Text.indentLines blanks (s.kept '\n')) := by
  obtain ⟨hcode, hcomment, hliteral⟩ := scan_blanks hblanks
  have hkept : Text.indentLines blanks ['/', '\n'] = '/' :: '\n' :: blanks := by
    simp [Text.indentLines]
  rw [scan_cons]
  cases s with
  | code => rw [show next .code '\n' = .code from rfl, hcode]; simp [kept]
  | slash => rw [show next .slash '\n' = .code from rfl, hcode]; simp [kept, hkept]
  | literal q =>
    rw [show next (.literal q) '\n' = .literal q by cases q <;> rfl, hliteral]
    simp [kept]
  | escape q => rw [show next (.escape q) '\n' = .literal q from rfl, hliteral]; simp [kept]
  | comment => rw [show next .comment '\n' = .comment from rfl, hcomment]; rfl
  | star => rw [show next .star '\n' = .comment from rfl, hcomment]; rfl

theorem not_mem_kept {c d : Char} (hd : d ≠ c) (hslash : d ≠ '/') (s : ScanState) :
    d ∉ s.kept c := by
  cases s with
  | code => simp only [kept]; split_ifs <;> simp [hd]
  | slash => simp only [kept]; split_ifs <;> simp [hd, hslash]
  | literal q => simp [kept, hd]
  | escape q => simp [kept, hd]
  | comment => simp [kept]
  | star => simp [kept]

/-- Indenting further lines indents what is kept of them. -/
theorem scan_indentLines (hblanks : ∀ c ∈ blanks, c = ' ') (s : ScanState) (u : List Char) :
    scan s (Text.indentLines blanks u) = ((scan s u).1, Text.indentLines blanks (scan s u).2) := by
  induction u generalizing s with
  | nil => rfl
  | cons c u ih =>
    have hfirst : scan s (Text.indentLines blanks [c]) =
        (s.next c, Text.indentLines blanks (s.kept c)) := by
      by_cases hc : c = '\n'
      · subst hc
        rw [Text.indentLines_lineBreak, scan_lineBreak hblanks]
      · have hbreak : '\n' ∉ [c] := fun hmem => hc (List.mem_singleton.1 hmem).symm
        rw [Text.indentLines_eq_self hbreak,
          Text.indentLines_eq_self (not_mem_kept (Ne.symm hc) (by decide) s), scan_cons]
        exact Prod.ext rfl (List.append_nil _)
    rw [← List.singleton_append, Text.indentLines_append, scan_append, hfirst, ih,
      List.singleton_append, scan_cons, Text.indentLines_append]

/-- In a comment nothing is kept, up to the characters that end it.  These do not come
about at the end of a text, if no slash follows. -/
theorem scan_comment {body : List Char} (hbody : ¬ "*/".toList <:+: body) {c : Char}
    (hslash : c ≠ '/') (hstar : c ≠ '*') (rest : List Char) :
    scan .comment (body ++ c :: rest) = scan .comment rest := by
  have hstart : ∀ s, s = .comment ∨ (s = .star ∧ body.head? ≠ some '/') →
      scan s (body ++ c :: rest) = scan .comment rest := by
    induction body with
    | nil =>
      rintro s (rfl | ⟨rfl, -⟩)
      · rw [List.nil_append, scan_cons, next, if_neg hstar]
        rfl
      · rw [List.nil_append, scan_cons, next, if_neg hslash, if_neg hstar]
        rfl
    | cons d body ih =>
      have hinfix : ¬ "*/".toList <:+: body := fun h =>
        hbody (h.trans (List.suffix_cons d body).isInfix)
      -- after a star no slash comes next
      have hnext : d = '*' → body.head? ≠ some '/' := by
        rintro rfl hhead
        obtain ⟨body', rfl⟩ := List.head?_eq_some_iff.1 hhead
        exact hbody ⟨[], body', rfl⟩
      rintro s (rfl | ⟨rfl, hhead⟩)
      · rw [List.cons_append, scan_cons, next]
        split
        · next hd => exact ih hinfix _ (.inr ⟨rfl, hnext hd⟩)
        · exact ih hinfix _ (.inl rfl)
      · rw [List.cons_append, scan_cons, next, if_neg (by simpa using hhead)]
        split
        · next hd => exact ih hinfix _ (.inr ⟨rfl, hnext hd⟩)
        · exact ih hinfix _ (.inl rfl)
  exact hstart .comment (.inl rfl)

/-- In a literal everything is kept, up to the mark that ends it. -/
theorem scan_literal {q : Quote} (h : FreeOf [q.char, '\\'] u) :
    scan (.literal q) u = (.literal q, u) := by
  induction u with
  | nil => rfl
  | cons c u ih =>
    have hc := h c List.mem_cons_self
    rw [List.mem_cons, List.mem_singleton, not_or] at hc
    obtain ⟨hquote, hescape⟩ := hc
    rw [scan_cons, next, if_neg hescape, if_neg hquote,
      ih fun d hd => h d (List.mem_cons_of_mem _ hd)]
    rfl

end Scan

/-! ## texts with the same code -/

/-- A text that begins in code and ends in code: no literal and no comment is left open. -/
def Closed (u : List Char) : Prop := (scan .code u).1 = .code

instance : DecidablePred Closed := fun u => inferInstanceAs (Decidable ((scan .code u).1 = .code))

/-- Closed texts from which the same is kept. -/
def SameCode (u v : List Char) : Prop :=
  ∃ kept, scan .code u = (.code, kept) ∧ scan .code v = (.code, kept)

section SameCode

variable {u u' v v' : List Char}

theorem Closed.same (h : Closed u) : SameCode u u :=
  ⟨(scan .code u).2, Prod.ext h rfl, Prod.ext h rfl⟩

theorem SameCode.append (hu : SameCode u u') (hv : SameCode v v') :
    SameCode (u ++ v) (u' ++ v') := by
  obtain ⟨k, hu, hu'⟩ := hu
  obtain ⟨l, hv, hv'⟩ := hv
  refine ⟨k ++ l, ?_, ?_⟩
  · rw [scan_append, hu, hv]
  · rw [scan_append, hu', hv']

/-- Tables that are alike, whose entries are written with the same code. -/
theorem SameCode.entries {rule : String → Prop} {rel : α → β → Prop} {t : Table α} {t' : Table β}
    {f : String × α → List Char} {g : String × β → List Char} (h : Table.Alike rule rel t t')
    (hentry : ∀ k a b, rule k → rel a b → SameCode (f (k, a)) (g (k, b))) :
    SameCode (t.entries.flatMap f) (t'.entries.flatMap g) := by
  obtain ⟨es, hes⟩ := t
  obtain ⟨es', hes'⟩ := t'
  simp only [Table.Alike] at h ⊢
  clear hes hes'
  induction h with
  | nil => exact Closed.same rfl
  | @cons e e' es es' hfirst _ ih =>
    obtain ⟨k, a⟩ := e
    obtain ⟨k', b⟩ := e'
    obtain ⟨hk, hrule, hrel⟩ := hfirst
    simp only at hk hrel
    subst hk
    rw [List.flatMap_cons, List.flatMap_cons]
    exact (hentry k a b hrule hrel).append ih

theorem SameCode.indentLines {blanks : List Char} (hblanks : ∀ c ∈ blanks, c = ' ')
    (h : SameCode u v) :
    SameCode (Text.indentLines blanks u) (Text.indentLines blanks v) := by
  obtain ⟨k, hu, hv⟩ := h
  refine ⟨Text.indentLines blanks k, ?_, ?_⟩
  · rw [scan_indentLines hblanks, hu]
  · rw [scan_indentLines hblanks, hv]

theorem SameCode.withoutComments_eq {a b : String} (h : SameCode a.toList b.toList) :
    withoutComments a = withoutComments b := by
  obtain ⟨k, ha, hb⟩ := h
  rw [withoutComments, withoutComments, ha, hb]

theorem Closed.append (hu : Closed u) (hv : Closed v) : Closed (u ++ v) := by
  rw [Closed, scan_append, hu]
  exact hv

/-- A literal whose content neither ends it nor escapes anything. -/
theorem closed_literal (q : Quote) (h : FreeOf [q.char, '\\'] u) :
    Closed (q.char :: u ++ [q.char]) := by
  have hopen : ScanState.next .code q.char = .literal q := by cases q <;> rfl
  have hclose : ScanState.next (.literal q) q.char = .code := by cases q <;> rfl
  rw [Closed, List.cons_append, scan_cons, hopen, scan_append, scan_literal h]
  exact hclose

end SameCode

/-! ## names and comments -/

/-- What is asked of the texts of a document for its remarks not to count: names that can
stand in quotes, keys that are closed, remarks that do not end a comment, and paths that
can stand in a comment and in a template. -/
def commentRules : TextRules where
  name n := FreeOf ['\'', '\\'] n.toList
  key k := Closed k.toList
  remark r := ¬ "*/".toList <:+: r.toList
  path p := ¬ "*/".toList <:+: p.toList ∧ FreeOf ['`', '\\'] p.toList

instance : DecidablePred commentRules.name := fun n =>
  inferInstanceAs (Decidable (FreeOf ['\'', '\\'] n.toList))

theorem closed_quoted {name : String} (h : commentRules.name name) :
    Closed (quoted name).toList := by
  rw [toList_quoted]
  exact closed_literal .single h

theorem closed_of_isIdentifier {cs : List Char} (h : ∀ c ∈ cs, Text.isIdentifierPart c = true) :
    Closed cs := by
  induction cs with
  | nil => rfl
  | cons c cs ih =>
    have hc := h c List.mem_cons_self
    have hnext : ScanState.next .code c = .code := by
      have hother : ∀ d, Text.isIdentifierPart d = false → c ≠ d := by
        rintro d hd rfl
        rw [hd] at hc
        contradiction
      have hslash := hother '/' (by decide)
      have hsingle := hother '\'' (by decide)
      have hdouble := hother '"' (by decide)
      have hbacktick := hother '`' (by decide)
      simp [ScanState.next, ScanState.afterCode, Quote.ofChar?, Quote.char, hslash, hsingle.symm,
        hdouble.symm, hbacktick.symm]
    rw [Closed, scan_cons, hnext]
    exact ih fun d hd => h d (List.mem_cons_of_mem _ hd)

theorem closed_keyText {name : String} (h : commentRules.name name) :
    Closed (keyText name).toList := by
  rw [keyText]
  split
  · next hid =>
    exact closed_of_isIdentifier fun c hc => Text.isIdentifierPart_of_mem hid hc
  · exact closed_quoted h

/-- Nothing is kept of a comment. -/
theorem scan_comment_remark {remark : String} (h : commentRules.remark remark)
    (rest : List Char) :
    scan .code ("/** ".toList ++ (remark.toList ++ " */".toList ++ rest)) = scan .code rest := by
  have hopen : (scan .code "/** ".toList) = (.comment, []) := by decide
  have hclose : scan .comment "*/".toList = (.code, []) := by decide
  have htext : remark.toList ++ " */".toList ++ rest =
      remark.toList ++ ' ' :: ("*/".toList ++ rest) := by simp
  rw [scan_append, hopen, htext, scan_comment h (by decide) (by decide), scan_append, hclose]
  rfl

theorem sameCode_commentText {c c' : Option String} (h : commentRules.Remarks c c') :
    SameCode (commentText c).toList (commentText c').toList := by
  have hscan : ∀ {a : String}, a ≠ "" → commentRules.remark a →
      scan .code (commentText (some a)).toList = (.code, ['\n']) := by
    intro a ha hremark
    have htext : (commentText (some a)).toList =
        "/** ".toList ++ (a.toList ++ " */".toList ++ ['\n']) := by
      rw [commentText_some ha]
      simp
    rw [htext, scan_comment_remark hremark]
    decide
  cases h with
  | none => exact Closed.same rfl
  | @some a b blank left right =>
    by_cases ha : a = ""
    · rw [ha, blank.1 ha, commentText_empty]
      exact Closed.same rfl
    · exact ⟨['\n'], hscan ha left, hscan (mt blank.2 ha) right⟩

/-! ## types -/

mutual

theorem TypeExpr.Alike.sameCode {t t' : TypeExpr} :
    t.Alike commentRules t' → SameCode t.text.toList t'.text.toList
  | .unknown => Closed.same (by decide)
  | .number => Closed.same (by decide)
  | .string => Closed.same (by decide)
  | .boolean => Closed.same (by decide)
  | .array item => by
    rw [text_array, text_array, String.toList_append, String.toList_append, String.toList_append,
      String.toList_append]
    exact (SameCode.append (Closed.same (by decide)) item.sameCode).append
      (Closed.same (by decide))
  | .object .nil => Closed.same (by decide)
  | .object (.cons comment key type rest) => by
    have hfields := (TypeExpr.FieldsAlike.cons comment key type rest).sameCode
    rw [text, text]
    simp only [String.toList_append]
    exact (SameCode.append (Closed.same (by decide)) hfields).append (Closed.same (by decide))

theorem TypeExpr.FieldsAlike.sameCode {fs fs' : List (Option String × String × TypeExpr)} :
    FieldsAlike commentRules fs fs' → SameCode (fieldsText fs).toList (fieldsText fs').toList
  | .nil => Closed.same (by decide)
  | .cons comment key type rest => by
    have hkey := Closed.same key
    rw [fieldsText_cons, fieldsText_cons]
    simp only [String.toList_append]
    exact (((((Closed.same (by decide)).append (sameCode_commentText comment)).append hkey).append
      (Closed.same (by decide))).append type.sameCode).append rest.sameCode

end

theorem Annotated.Alike.sameCode {a a' : Annotated} (h : a.Alike commentRules a') :
    SameCode a.text.toList a'.text.toList := by
  rw [Annotated.text, Annotated.text, String.toList_append, String.toList_append]
  exact (sameCode_commentText h.comment).append h.type.sameCode

theorem Property.Alike.sameCode {p p' : Property} (h : p.Alike commentRules p') :
    SameCode p.text.toList p'.text.toList := by
  obtain ⟨a, a', ha, htype, htype'⟩ := h.type
  have hkey : SameCode p.key.toList p.key.toList := Closed.same h.rule
  rw [Property.text, Property.text, htype, htype', ← h.key]
  simp only [String.toList_append]
  exact (((sameCode_commentText h.comment).append hkey).append (Closed.same (by decide))).append
    ha.sameCode

/-- Without comments the types in alike catalogues are the same. -/
theorem TypeText.sameCode {τ τ' : String} (h : TypeText commentRules τ τ') :
    SameCode τ.toList τ'.toList := by
  cases h with
  | response ha => exact ha.sameCode
  | paged ha =>
    rw [String.toList_append, String.toList_append]
    exact ha.sameCode.append (Closed.same (by decide))
  | @parameters ps ps' hps =>
    have hlines : SameCode (String.join (ps.map fun p => p.text ++ "\n")).toList
        (String.join (ps'.map fun p => p.text ++ "\n")).toList := by
      induction hps with
      | nil => exact Closed.same rfl
      | cons hp _ ih =>
        simp only [List.map_cons, String.join_cons, String.toList_append]
        exact (hp.sameCode.append (Closed.same (by decide))).append ih
    cases hps with
    | nil => exact Closed.same (by decide)
    | cons hp hrest =>
      rw [objectType, objectType, if_neg (by simp), if_neg (by simp)]
      simp only [String.toList_append]
      exact ((Closed.same (by decide)).append hlines).append (Closed.same (by decide))

/-! ## files -/

theorem sameCode_indented {τ τ' : String} (h : SameCode τ.toList τ'.toList) :
    SameCode (indented τ 4).toList (indented τ' 4).toList := by
  rw [indented, indented, String.toList_ofList, String.toList_ofList]
  exact h.indentLines fun _ => eq_of_mem_pad

theorem sameCode_columnText {label : String} {types types' : Table String}
    (hlabel : Closed (pad 3 ++ label ++ ": \x7b\n").toList)
    (h : Table.Alike commentRules.name (TypeText commentRules) types types') :
    SameCode (columnText label types) (columnText label types') := by
  have hentries : SameCode (types.entries.flatMap fun e => (pad 4).toList ++ entryText e)
      (types'.entries.flatMap fun e => (pad 4).toList ++ entryText e) :=
    SameCode.entries h fun chain τ τ' hname htype => (Closed.same (by decide)).append
      (((Closed.same (closed_keyText hname)).append (Closed.same (by decide))).append
        ((Closed.same (by decide)).append
          ((sameCode_indented htype.sameCode).append (Closed.same (by decide)))))
  exact (Closed.same hlabel).append (hentries.append (Closed.same (by decide)))

/-- The characters of a template are those of a path, and those of the placeholders. -/
theorem Endpoint.Keeps.freeOf_path {e : Endpoint} (h : e.Keeps commentRules) :
    FreeOf ['`', '\\'] e.path.toList := by
  obtain ⟨params, hpath⟩ := h.path
  have hplaceholder : FreeOf ['`', '\\'] placeholderChars := by decide
  intro c hc
  rw [hpath] at hc
  rcases mem_endpointTemplate hc with hc | hc
  · exact hplaceholder c hc
  · exact h.comment.2 c hc

theorem closed_endpointText {e : String × Endpoint} (hchain : commentRules.name e.1)
    (h : e.2.Keeps commentRules) : Closed (endpointText e) := by
  have hcomment : Closed ("/** '".toList ++ (e.2.comment.toList ++ "' */".toList ++ ['\n'])) := by
    have hopen : scan .code "/** '".toList = (.comment, []) := by decide
    have htext : e.2.comment.toList ++ "' */".toList ++ ['\n'] =
        e.2.comment.toList ++ '\'' :: " */\n".toList := by simp
    rw [Closed, scan_append, hopen, htext, scan_comment h.comment.1 (by decide) (by decide)]
    decide
  have htemplate : Closed (" `".toList ++ (e.2.path.toList ++ "`".toList ++ ['\n'])) := by
    have htext : " `".toList ++ (e.2.path.toList ++ "`".toList ++ ['\n']) =
        [' '] ++ ('`' :: e.2.path.toList ++ ['`'] ++ ['\n']) := by simp
    rw [htext]
    exact Closed.append (by decide)
      ((closed_literal .backtick h.freeOf_path).append (by decide))
  rw [endpointText, ← List.append_assoc]
  exact hcomment.append (Closed.append (by decide)
    (((closed_keyText hchain).append (by decide)).append htemplate))

theorem sameCode_headText {c c' : Option String} {id : String} (hid : commentRules.name id)
    (h : commentRules.Remarks c c') :
    SameCode (headText (c.filter (· ≠ "")) id) (headText (c'.filter (· ≠ "")) id) := by
  have hkey : SameCode ((keyText id).toList ++ [':']) ((keyText id).toList ++ [':']) :=
    ((closed_keyText hid).append (by decide)).same
  have hscan : ∀ {a : String}, commentRules.remark a →
      scan .code (headText (some a) id) =
        scan .code ("\n".toList ++ ((pad 1).toList ++ ((keyText id).toList ++ [':']))) := by
    intro a hremark
    have htext : headText (some a) id = "/** ".toList ++ (a.toList ++ " */".toList ++
        ("\n".toList ++ ((pad 1).toList ++ ((keyText id).toList ++ [':'])))) := by
      simp [headText]
    rw [htext, scan_comment_remark hremark]
  cases h with
  | none => exact hkey
  | @some a b blank left right =>
    by_cases ha : a = ""
    · rw [ha, blank.1 ha]
      exact hkey
    · have hfilter : ∀ {a : String}, a ≠ "" → (some a).filter (· ≠ "") = some a := fun h => by
        simp [Option.filter, h]
      obtain ⟨k, hk, -⟩ : SameCode ("\n".toList ++ ((pad 1).toList ++ _)) _ :=
        (Closed.same (by decide)).append ((Closed.same (by decide)).append hkey)
      rw [hfilter ha, hfilter (mt blank.2 ha)]
      exact ⟨k, (hscan left).trans hk, (hscan right).trans hk⟩

theorem OperationTypes.Alike.sameCode {id : String} {r r' : OperationTypes}
    (hid : commentRules.name id) (h : r.Alike commentRules r') :
    SameCode (r.blockText id) (r'.blockText id) := by
  have hendpoint : SameCode (r.endpoint.entries.flatMap fun e => (pad 3).toList ++ endpointText e)
      (r'.endpoint.entries.flatMap fun e => (pad 3).toList ++ endpointText e) := by
    refine SameCode.entries h.endpoint fun chain e e' hname he => ?_
    obtain ⟨rfl, hkeeps⟩ := he
    exact (Closed.append (by decide) (closed_endpointText hname hkeeps)).same
  have hmethod : Closed (methodText r.method) := by cases r.method <;> decide
  rw [blockText, blockText, ← h.method]
  exact (sameCode_headText hid h.comment).append (hmethod.same.append
    ((Closed.same (by decide)).append
    ((hendpoint.append (Closed.same (by decide))).append
    ((Closed.same (by decide)).append ((sameCode_columnText (by decide) h.path).append
    ((sameCode_columnText (by decide) h.query).append
    ((sameCode_columnText (by decide) h.body).append ((Closed.same (by decide)).append
    ((sameCode_columnText (by decide) h.success).append
    ((sameCode_columnText (by decide) h.error).append (Closed.same (by decide))))))))))))

namespace Catalogue

variable {c c' : Catalogue}

/-- Nothing is left open in front of the operations. -/
theorem closed_introLines (includePagination : Bool) :
    Closed (written (introLines includePagination)) := by
  -- the literals are taken as lists, which are fast to go through
  have hpaging : Closed (written pagingLines) := by
    simp only [pagingLines, pagingProperty, pad, indent, written_append, written_cons,
      written_nil, String.toList_append]
    repeat rw [String.toList_ofList]
    decide +kernel
  have hlookup : Closed (written ([headerLine, ""] ++ lookupTypes.flatMap LookupType.lines)) := by
    simp only [headerLine, lookupTypes, LookupType.lines, indent, List.flatMap_cons,
      List.flatMap_nil, written_append, written_cons, written_nil, String.toList_append]
    repeat rw [String.toList_ofList]
    decide +kernel
  have hopen : Closed (written
      ["/** Stores everything related to Rest API. */", "export interface RestApi \x7b"]) := by
    simp only [written_cons, written_nil]
    repeat rw [String.toList_ofList]
    decide +kernel
  rw [introLines, written_append, written_append]
  refine (hlookup.append ?_).append hopen
  cases includePagination
  · rfl
  · exact hpaging

/-- Nor is anything left open after the operations. -/
theorem closed_outroLines (h : ∀ chain ∈ c.chainNames, commentRules.name chain) :
    Closed (written c.outroLines) := by
  have hunion : Closed (chainUnion c.chainNames).toList := by
    rw [chainUnion]
    split
    · decide
    · refine intercalate_of_append (P := Closed) rfl (fun _ _ => .append) (by decide)
        fun part hpart => ?_
      obtain ⟨chain, hchain, rfl⟩ := List.mem_map.1 hpart
      exact closed_quoted (h chain hchain)
  have hbefore : Closed (written ["", "/** Represent any of the available chain names. */"] ++
      "export type ChainName = ".toList) := by
    simp only [written_cons, written_nil]
    repeat rw [String.toList_ofList]
    decide +kernel
  have hafter : Closed (written ["", "", "/** Represent any of the available operation IDs. */",
      "export type OperationId = keyof RestApi"]) := by
    simp only [written_cons, written_nil]
    repeat rw [String.toList_ofList]
    decide +kernel
  have htext : written c.outroLines =
      written ["", "/** Represent any of the available chain names. */"] ++
        "export type ChainName = ".toList ++ (chainUnion c.chainNames).toList ++
        written ["", "", "/** Represent any of the available operation IDs. */",
          "export type OperationId = keyof RestApi"] := by
    simp only [outroLines, written_cons, written_nil, String.toList_append, List.append_assoc,
      List.cons_append, List.nil_append]
    rfl
  rw [htext]
  exact (hbefore.append hunion).append hafter

/-- Files of alike catalogues are the same without comments. -/
theorem Alike.sameCode (h : c.Alike commentRules c') (includePagination : Bool) :
    SameCode (c.emit includePagination).toList (c'.emit includePagination).toList := by
  have hoperations : SameCode
      (c.entries.flatMap fun e => (pad 1).toList ++ e.2.blockText e.1)
      (c'.entries.flatMap fun e => (pad 1).toList ++ e.2.blockText e.1) :=
    SameCode.entries h fun id r r' hname hrecord =>
      (Closed.same (by decide)).append (hrecord.sameCode hname)
  have houtro : Closed (written c.outroLines) :=
    closed_outroLines fun chain hchain => h.name_of_mem_chainNames hchain
  have hsame : c'.outroLines = c.outroLines := by
    rw [outroLines, outroLines, h.chainNames_eq]
  rw [toList_emit, toList_emit, written_lines, written_lines, hsame]
  exact ((closed_introLines _).same.append
    (hoperations.append (Closed.same (by decide)))).append houtro.same

/-- Remarks do not count.  Chains that agree but for their remarks, none of which ends a
comment, fail alike, or have files that are the same without comments. -/
theorem build_sameCode {options : Options} {chains chains' : List (String × Document)}
    (h : ChainsAlike commentRules chains chains') (includePagination : Bool) :
    Logged.Alike (fun c c' => withoutComments (c.emit includePagination) =
        withoutComments (c'.emit includePagination))
      (build options chains) (build options chains') :=
  (build_alike h).imp fun _ _ hc => (hc.sameCode includePagination).withoutComments_eq

/-- A chain with a single operation, on which there is a remark. -/
def remarkedChains (summary : String) : List (String × Document) :=
  [("kyve", { paths := .singleton "/supply" { get := some {
    operationId := some "Supply", summary := some summary } } })]

theorem chainsAlike_remarkedChains {rules : TextRules} {a b : String}
    (hname : rules.name "kyve" ∧ rules.name "Supply") (hpath : rules.path "/supply")
    (hremarks : rules.Remarks (some a) (some b)) :
    ChainsAlike rules (remarkedChains a) (remarkedChains b) := by
  have hop : Operation.Alike rules { operationId := some "Supply", summary := some a }
      { operationId := some "Supply", summary := some b } :=
    { operationId := rfl
      name := fun id hid => Option.some.inj hid ▸ hname.2
      summary := hremarks
      parameters := .nil
      responses := .nil }
  exact .cons ⟨rfl, hname.1,
    { paths := .singleton hpath { get := .some hop, post := .none }
      definitions := .empty
      parameters := .empty }⟩ .nil

theorem build_sameCode_remarkedChains :
    ChainsAlike commentRules (remarkedChains "The supply") (remarkedChains "All of it") ∧
      Logged.Alike (fun c c' => withoutComments (c.emit false) = withoutComments (c'.emit false))
        (build {} (remarkedChains "The supply")) (build {} (remarkedChains "All of it")) := by
  have hleft : ¬ "*/".toList <:+: "The supply".toList := by decide +kernel
  have hright : ¬ "*/".toList <:+: "All of it".toList := by decide +kernel
  have halike : ChainsAlike commentRules (remarkedChains "The supply")
      (remarkedChains "All of it") :=
    chainsAlike_remarkedChains (by decide) ⟨by decide +kernel, by decide⟩
      (.some (by decide) hleft hright)
  exact ⟨halike, build_sameCode halike false⟩

/-- The file of a catalogue from the first operation on, without comments. -/
def keptOperations (c : Catalogue) : List Char :=
  let read := scan .code (c.entries.flatMap (fun e => (pad 1).toList ++ e.2.blockText e.1) ++
    "\x7d\n".toList ++ written c.outroLines)
  read.2 ++ read.1.pending

theorem keptOperations_eq {includePagination : Bool}
    (h : withoutComments (c.emit includePagination) =
      withoutComments (c'.emit includePagination)) : c.keptOperations = c'.keptOperations := by
  have htext : ∀ c : Catalogue, withoutComments (c.emit includePagination) =
      String.ofList ((scan .code (written (introLines includePagination))).2 ++
        c.keptOperations) := by
    intro c
    have hintro : (scan .code (written (introLines includePagination))).1 = .code :=
      closed_introLines includePagination
    rw [withoutComments, toList_emit, written_lines, List.append_assoc, scan_append, hintro,
      List.append_assoc, keptOperations]
  rw [htext, htext, String.ofList_inj] at h
  exact List.append_cancel_left h

/-- The catalogue of such a chain. -/
def remarkedCatalogue (summary : String) : Catalogue :=
  .singleton "Supply" {
    method := .get
    comment := some summary
    endpoint := .singleton "kyve" ⟨"/supply", "/supply"⟩
    path := .singleton "kyve" undefinedType
    query := .singleton "kyve" undefinedType
    body := .singleton "kyve" undefinedType
    success := .singleton "kyve" "unknown"
    error := .singleton "kyve" "unknown" }

theorem build_remarkedChains (summary : String) :
    (build {} (remarkedChains summary)).outcome = .ok (remarkedCatalogue summary) := rfl

/-- A summary may end its comment, and what follows becomes a declaration: here `injected`
is a property of the interface. -/
theorem emit_leaks :
    ChainsAlike ⟨fun _ => True, fun _ => True, fun _ => True, fun _ => True⟩
        (remarkedChains "The supply */ injected: never /*") (remarkedChains "The supply") ∧
      ∃ c c', (build {} (remarkedChains "The supply */ injected: never /*")).outcome = .ok c ∧
        (build {} (remarkedChains "The supply")).outcome = .ok c' ∧
        withoutComments (c.emit false) ≠ withoutComments (c'.emit false) := by
  refine ⟨chainsAlike_remarkedChains ⟨trivial, trivial⟩ trivial
    (.some (by decide) trivial trivial), _, _, build_remarkedChains _, build_remarkedChains _,
    fun h => ?_⟩
  have hbegin := congrArg (List.take 6) (keptOperations_eq h)
  revert hbegin
  decide +kernel

end Catalogue

end ChainApi
