import ChainApi.Proofs.Layout
import ChainApi.Proofs.Lockstep
import ChainApi.Proofs.Nesting
import ChainApi.Proofs.Reader

/-!
# ChainApi.Proofs.Faithful

A declaration file tells the catalogue that it was written from.  For each piece of
the file there is a reader, and a lemma that it gets back what the piece was written
from, up to the lemma on the file as a whole.

* `unquote_keyText` — the name behind a key;
* `reads_type` — a type of several lines, whose end its braces tell;
* `Catalogue.read?` — the catalogue that a file was written from;
* `Catalogue.read?_emit` — it is the catalogue, up to empty comments;
* `Catalogue.emit_faithful` — for catalogues that are built from documents, what is
  asked of the texts in them follows from what is asked of the documents.
-/

namespace ChainApi

open Reader

/-! ## keys -/

/-- The name behind a key: quotes are taken off. -/
def unquote (key : List Char) : String :=
  if key.head? = some '\'' then String.ofList key.tail.dropLast else String.ofList key

/-- Taking the quotes off gives back the name. -/
theorem unquote_keyText (name : String) : unquote (keyText name).toList = name := by
  rw [unquote]
  split
  · next h =>
    rcases head?_keyText h with ⟨-, hstart⟩ | ⟨hid, -⟩
    · exact absurd hstart (by decide)
    · rw [keyText, if_neg (by simp [hid]), toList_quoted, List.cons_append, List.tail_cons,
        List.dropLast_concat, String.ofList_toList]
  · next h =>
    rw [keyText] at h ⊢
    split
    · exact String.ofList_toList
    · next hid =>
      rw [if_neg hid, toList_quoted] at h
      exact absurd rfl h

/-- Take a key, which ends before a colon. -/
def readKey : Reader String := unquote <$> before ':'

theorem reads_key {name : String} (h : ':' ∉ name.toList) :
    readKey.Reads ((keyText name).toList ++ [':']) name := by
  have hread := (reads_before (not_mem_keyText h (by decide))).map unquote
  rw [unquote_keyText] at hread
  exact hread

/-! ## tables -/

variable {α β : Type}

/-- Take a block of entries as a table. -/
def readTable (lead stop : List Char) (item : Reader (String × α)) : Reader (Table α) :=
  Table.ofList <$> block lead stop item

theorem reads_table {lead stop : List Char} {item : Reader (String × α)} {t : Table α}
    {es : List β} {write : β → List Char} {value : β → String × α} (hlead : ¬ lead <+: stop)
    (hstop : ¬ stop <+: lead) (h : ∀ e ∈ es, item.Reads (write e) (value e))
    (hvalue : es.map value = t.entries) :
    (readTable lead stop item).Reads (es.flatMap (fun e => lead ++ write e) ++ stop) t := by
  have hread := (reads_block hlead hstop h).map Table.ofList
  rw [hvalue, Table.ofList_entries] at hread
  exact hread

/-! ## columns of types -/

/-- Take a type, and take the indentation off. -/
def readType : Reader String := fun cs =>
  (takeType 0 false cs).map fun r => (String.ofList (dropPads (pad 4).length 0 r.1), r.2)

theorem run_readType (cs : List Char) : readType.run cs = (takeType 0 false cs).map fun r =>
    (String.ofList (dropPads (pad 4).length 0 r.1), r.2) := rfl

theorem reads_type {type : String} (h : Enclosed false type.toList) :
    readType.Reads ((indented type 4).toList ++ ['\n']) type := by
  intro rest
  have hlines : Enclosed false (indented type 4).toList := by
    rw [indented, String.toList_ofList]
    exact h.indentLines (by decide)
  have htake : takeType 0 false ((indented type 4).toList ++ ['\n'] ++ rest) =
      some ((indented type 4).toList, rest) := by
    rw [List.append_assoc, takeType_append hlines 0 (by decide)]
    simp [takeType, prepend]
  have hdrop : String.ofList (dropPads (pad 4).length 0 (indented type 4).toList) = type := by
    have hlength : (pad 4).length = (pad 4).toList.length := by decide
    rw [indented, String.toList_ofList, hlength, dropPads_indentLines, String.ofList_toList]
  rw [run_readType, htake, Option.map_some, hdrop]

/-- Take the entry of a chain in a column. -/
def readEntry : Reader (String × String) := do
  let chain ← readKey
  expect [' ']
  let type ← readType
  pure (chain, type)

theorem reads_entry {e : String × String} (hchain : ':' ∉ e.1.toList)
    (htype : Enclosed false e.2.toList) : readEntry.Reads (entryText e) e :=
  (reads_key hchain).bind ((reads_expect _).bind ((reads_type htype).bind_pure _))

/-- Take a column of types. -/
def readColumn (label : String) : Reader (Table String) := do
  expect (pad 3 ++ label ++ ": \x7b\n").toList
  readTable (pad 4).toList (pad 3 ++ "\x7d\n").toList readEntry

theorem reads_column {label : String} {types types' : Table String}
    (h : Table.Alike lineRules.name (TypeText lineRules) types types') :
    (readColumn label).Reads (columnText label types) types := by
  have hentries : ∀ e ∈ types.entries, readEntry.Reads (entryText e) e := by
    intro e he
    obtain ⟨hchain, b, htype⟩ := h.left he
    exact reads_entry hchain htype.enclosed
  exact (reads_expect _).bind (reads_table (by decide) (by decide) hentries (List.map_id' _))

/-! ## endpoints -/

/-- Take the endpoint of a chain. -/
def readEndpoint : Reader (String × Endpoint) := do
  expect "/** '".toList
  let comment ← line "' */".toList
  expect (pad 3).toList
  let chain ← readKey
  expect " `".toList
  let path ← line "`".toList
  pure (chain, ⟨path, comment⟩)

/-- The path of an endpoint has a single line, like that of the document. -/
theorem Endpoint.Keeps.not_mem_path {e : Endpoint} (h : e.Keeps lineRules) :
    '\n' ∉ e.path.toList := by
  obtain ⟨params, hpath⟩ := h.path
  rw [hpath]
  intro hmem
  rcases mem_endpointTemplate hmem with hmem | hmem
  · exact absurd hmem (by decide)
  · exact h.comment hmem

theorem reads_endpoint {e : String × Endpoint} (hchain : ':' ∉ e.1.toList)
    (h : e.2.Keeps lineRules) : readEndpoint.Reads (endpointText e) e :=
  (reads_expect _).bind ((reads_line h.comment (by decide)).bind ((reads_expect _).bind
    ((reads_key hchain).bind ((reads_expect _).bind
      ((reads_line h.not_mem_path (by decide)).bind_pure _)))))

/-! ## operations -/

/-- Take the comment of an operation, if there is one, and its id. -/
def readHead : Reader (Option String × String) :=
  choose "/** ".toList
    (do
      expect "/** ".toList
      let comment ← line " */".toList
      expect (pad 1).toList
      let id ← readKey
      pure (some comment, id))
    (do
      let id ← readKey
      pure (none, id))

theorem reads_head {comment : Option String} {id : String} (hid : ':' ∉ id.toList)
    (hcomment : ∀ c, comment = some c → '\n' ∉ c.toList) :
    readHead.Reads (headText comment id) (comment, id) := by
  cases comment with
  | none =>
    refine reads_choose_right ((reads_key hid).bind_pure _) fun rest => ?_
    -- a key does not begin like a comment
    cases hkey : (keyText id).toList with
    | nil => rw [headText, hkey]; rfl
    | cons c cs =>
      have hslash : ('/' == c) = false := by
        rcases head?_keyText (by rw [hkey]; rfl : (keyText id).toList.head? = some c) with
          ⟨-, hstart⟩ | ⟨-, rfl⟩
        · rw [beq_eq_false_iff_ne]
          rintro rfl
          exact absurd hstart (by decide)
        · decide
      have hmark : "/** ".toList = '/' :: "** ".toList := rfl
      rw [hmark, headText, hkey, List.cons_append, List.cons_append, List.isPrefixOf, hslash,
        Bool.false_and]
  | some c =>
    refine reads_choose_left ?_ (List.prefix_append _ _)
    exact (reads_expect _).bind ((reads_line (hcomment c rfl) (by decide)).bind
      ((reads_expect _).bind ((reads_key hid).bind_pure _)))

/-- Take a method. -/
def readMethod : Reader Method := do
  expect (" \x7b\n" ++ pad 2 ++ "method: '").toList
  let label ← line "'".toList
  given (Method.choices.lookup label)

theorem reads_method (method : Method) :
    readMethod.Reads (methodText method) method := by
  have hlabel : Method.choices.lookup method.label = some method := by cases method <;> decide
  have hline : (line "'".toList).Reads (method.label.toList ++ "'".toList ++ ['\n'])
      method.label := reads_line (by cases method <;> decide) (by decide)
  exact (reads_expect _).bind ((hline.bind (reads_given hlabel)).of_eq (List.append_nil _))

/-- Take an operation. -/
def readOperation : Reader (String × OperationTypes) := do
  let head ← readHead
  let method ← readMethod
  expect (pad 2 ++ "endpoint: \x7b\n").toList
  let endpoint ← readTable (pad 3).toList (pad 2 ++ "\x7d\n").toList readEndpoint
  expect (pad 2 ++ "params: \x7b\n").toList
  let path ← readColumn "path"
  let query ← readColumn "query"
  let body ← readColumn "body"
  expect (pad 2 ++ "\x7d\n" ++ pad 2 ++ "response: \x7b\n").toList
  let success ← readColumn "success"
  let error ← readColumn "error"
  expect (pad 2 ++ "\x7d\n" ++ pad 1 ++ "\x7d\n").toList
  pure (head.2, ⟨method, head.1, endpoint, path, query, body, success, error⟩)

namespace OperationTypes

theorem Alike.reads {id : String} {r r' : OperationTypes} (hid : ':' ∉ id.toList)
    (h : r.Alike lineRules r') :
    readOperation.Reads (r.blockText id) (id, r.withoutEmptyComment) := by
  have hcomment : ∀ c, r.withoutEmptyComment.comment = some c → '\n' ∉ c.toList := by
    intro c hc
    obtain ⟨hsome, -⟩ := Option.filter_eq_some_iff.1 hc
    exact h.comment.left hsome
  have hendpoint : ∀ e ∈ r.endpoint.entries, readEndpoint.Reads (endpointText e) e := by
    intro e he
    obtain ⟨hchain, _, -, hkeeps⟩ := h.endpoint.left he
    exact reads_endpoint hchain hkeeps
  exact (reads_head hid hcomment).bind ((reads_method _).bind ((reads_expect _).bind
    ((reads_table (by decide) (by decide) hendpoint (List.map_id' _)).bind ((reads_expect _).bind
    ((reads_column h.path).bind ((reads_column h.query).bind ((reads_column h.body).bind
    ((reads_expect _).bind ((reads_column h.success).bind ((reads_column h.error).bind
    ((reads_expect _).bind_pure _)))))))))))

end OperationTypes

/-! ## the file -/

namespace Catalogue

/-- The catalogue that a file was written from.  What follows the operations repeats what
they say. -/
def read? (includePagination : Bool) (file : String) : Option Catalogue :=
  ((do
    expect (written (introLines includePagination))
    readTable (pad 1).toList "\x7d\n".toList readOperation : Reader Catalogue).run
      file.toList).map Prod.fst

/-- A catalogue whose comments say something. -/
def withoutEmptyComments (c : Catalogue) : Catalogue :=
  c.map OperationTypes.withoutEmptyComment

/-- The file of a catalogue whose texts keep the rules is read back, up to empty comments. -/
theorem read?_emit {c c' : Catalogue} (h : c.Alike lineRules c') (includePagination : Bool) :
    read? includePagination (c.emit includePagination) = some c.withoutEmptyComments := by
  have hoperations : ∀ e ∈ c.entries,
      readOperation.Reads (e.2.blockText e.1) (e.1, e.2.withoutEmptyComment) := by
    intro e he
    obtain ⟨hid, r, hr⟩ := Table.Alike.left h he
    exact hr.reads hid
  have hread : (do
      expect (written (introLines includePagination))
      readTable (pad 1).toList "\x7d\n".toList readOperation : Reader Catalogue).Reads
      (written (introLines includePagination) ++
        (c.entries.flatMap (fun e => (pad 1).toList ++ e.2.blockText e.1) ++ "\x7d\n".toList))
      c.withoutEmptyComments :=
    (reads_expect _).bind (reads_table (by decide) (by decide) hoperations rfl)
  rw [read?, toList_emit, written_lines, hread]
  rfl

end Catalogue

/-! ## catalogues that are built from documents -/

/-- A text without the marks by which a file is read: line breaks, colons, slashes and
braces. -/
def Unmarked (s : String) : Prop := FreeOf (':' :: scanMarks) s.toList

instance : DecidablePred Unmarked := fun s =>
  inferInstanceAs (Decidable (FreeOf (':' :: scanMarks) s.toList))

/-- A text of a single line. -/
def SingleLine (s : String) : Prop := '\n' ∉ s.toList

instance : DecidablePred SingleLine := fun s => inferInstanceAs (Decidable ('\n' ∉ s.toList))

theorem Unmarked.not_mem_colon {s : String} (h : Unmarked s) : ':' ∉ s.toList :=
  fun hmem => h _ hmem List.mem_cons_self

theorem Unmarked.freeOf_scanMarks {s : String} (h : Unmarked s) : FreeOf scanMarks s.toList :=
  fun c hc hmark => h c hc (List.mem_cons_of_mem _ hmark)

/-- A chain whose names are free of marks, and whose paths and remarks have a single line. -/
structure Legible (chain : String × Document) : Prop where
  names : ∀ name ∈ chain.1 :: chain.2.names, Unmarked name
  lines : ∀ text ∈ chain.2.paths.keys ++ chain.2.remarks, SingleLine text

instance : DecidablePred Legible := fun chain =>
  decidable_of_iff ((∀ name ∈ chain.1 :: chain.2.names, Unmarked name) ∧
    ∀ text ∈ chain.2.paths.keys ++ chain.2.remarks, SingleLine text)
    ⟨fun h => ⟨h.1, h.2⟩, fun h => ⟨h.names, h.lines⟩⟩

namespace Legible

variable {chain : String × Document}

/-- The key of a parameter is its name, with or without quotes. -/
theorem freeOf_key {p : Parameter} {name key : String} (hname : p.name = some name)
    (hkey : p.key? = some key) (h : Unmarked name) : FreeOf scanMarks key.toList := by
  have hquoted : FreeOf scanMarks (quoted name).toList := by
    intro c hc
    rw [toList_quoted] at hc
    simp only [List.mem_append, List.mem_cons, List.not_mem_nil, or_false] at hc
    rcases hc with (rfl | hc) | rfl
    · decide
    · exact h.freeOf_scanMarks c hc
    · decide
  rw [Parameter.key?, hname, Option.map_some, Option.some.injEq] at hkey
  subst hkey
  rw [displayName]
  split
  · exact hquoted
  · split
    · exact hquoted
    · exact h.freeOf_scanMarks

theorem name (h : Legible chain) : lineRules.name chain.1 :=
  (h.names _ List.mem_cons_self).not_mem_colon

theorem keeps (h : Legible chain) : chain.2.Keeps lineRules where
  ids id hid := (h.names id (by simp [Document.names, hid])).not_mem_colon
  parameters p hp key hkey := by
    obtain ⟨name, hname, -⟩ := Option.map_eq_some_iff.1 hkey
    have hmem : name ∈ chain.2.allParameters.filterMap (·.name) :=
      List.mem_filterMap.2 ⟨p, hp, hname⟩
    exact freeOf_key hname hkey (h.names name (by simp [Document.names, hmem]))
  properties name hname := (h.names name (by simp [Document.names, hname])).freeOf_scanMarks
  paths path hpath := h.lines path (List.mem_append_left _ hpath)
  remarks remark hremark := h.lines remark (List.mem_append_right _ hremark)

end Legible

namespace Catalogue

variable {options options' : Options} {chains chains' : List (String × Document)}
  {c c' : Catalogue}

/-- A catalogue that is built from legible chains is read back. -/
theorem read?_emit_of_build (legible : ∀ chain ∈ chains, Legible chain)
    (built : (build options chains).outcome = .ok c) (includePagination : Bool) :
    read? includePagination (c.emit includePagination) = some c.withoutEmptyComments := by
  obtain ⟨c', halike⟩ := alike_of_build
    (fun chain hmem => ⟨(legible chain hmem).name, (legible chain hmem).keeps⟩) built
  exact read?_emit halike includePagination

/-- The file of a catalogue is a faithful account of it.  Of two catalogues that are built
from chains without marks in their names, and without line breaks in their paths and
remarks, the files are equal only if the catalogues are, with the order of their entries
and up to empty comments; and the catalogue can be read off the file. -/
theorem emit_faithful (includePagination : Bool)
    (legible : ∀ chain ∈ chains, Legible chain) (legible' : ∀ chain ∈ chains', Legible chain)
    (built : (build options chains).outcome = .ok c)
    (built' : (build options' chains').outcome = .ok c') :
    read? includePagination (c.emit includePagination) = some c.withoutEmptyComments ∧
      (c.emit includePagination = c'.emit includePagination →
        c.withoutEmptyComments = c'.withoutEmptyComments) := by
  have hread := read?_emit_of_build legible built includePagination
  have hread' := read?_emit_of_build legible' built' includePagination
  refine ⟨hread, fun h => ?_⟩
  rw [h, hread'] at hread
  exact (Option.some.inj hread).symm

/-- Two chains with an operation whose query type has several lines. -/
def supplyChains (summary : Option String) : List (String × Document) :=
  let denom : Parameter := { name := some "denom", location := some "query" }
  let supply : PathItem := { get := some {
    operationId := some "supply-of", summary, parameters := some [denom] } }
  [("kyve", { paths := .singleton "/bank/supply" supply }),
    ("osmosis-1", { paths := .singleton "/supply" supply })]

theorem emit_faithful_supplyChains :
    (∀ chain ∈ supplyChains (some ""), Legible chain) ∧
      (∀ chain ∈ supplyChains none, Legible chain) ∧
      ∃ c c', (build {} (supplyChains (some ""))).outcome = .ok c ∧
        (build {} (supplyChains none)).outcome = .ok c' ∧
        read? false (c.emit false) = some c.withoutEmptyComments ∧
        (c.emit false = c'.emit false → c.withoutEmptyComments = c'.withoutEmptyComments) := by
  have legible : ∀ chain ∈ supplyChains (some ""), Legible chain := by decide
  have legible' : ∀ chain ∈ supplyChains none, Legible chain := by decide
  exact ⟨legible, legible', _, _, rfl, rfl, emit_faithful false legible legible' rfl rfl⟩

end Catalogue

end ChainApi
