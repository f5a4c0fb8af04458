import ChainApi.Proofs.Rereading
import Mathlib.Data.List.Forall2

/-!
# ChainApi.Proofs.Respelling

A description is settled by its first reading.  Reading it again where it is written comes
to the same records, and so does reading data in which the statuses of some operations are
spelled: a status may be a number, and is read as the text that it is written as.

The data and its changed form are walked from the outside in.  At each level the entries
have the same keys, and only the values of some of them are changed, so that all other
fields are read from the same members.

* `Value.Altered` — entries of which some values are changed, with what it says on
  members and tables;
* `Response.readTable_spelled`, `Operation.read_respelled`, `PathItem.read_respelled`,
  `Document.read_respelled` — what is read is the same, level by level;
* `Document.read_settles` — reading settles a description.
-/

namespace ChainApi

open Value

/-! ## changed members -/

/-- Entries with the same keys, of which the values of some keys may be changed. -/
def Value.Altered (keys : Value → Prop) (change : Value → Value → Prop) :
    List (Value × Value) → List (Value × Value) → Prop :=
  List.Forall₂ fun e e' => e'.1 = e.1 ∧ (e'.2 = e.2 ∨ keys e.1 ∧ change e.2 e'.2)

/-- Two mappings with the same keys, of which the values of some keys may be changed.  What the
first one's knots stand for is written out in the second. -/
def Knots.Alters (knots : Knots) (keys : Value → Prop) (change : Value → Value → Prop)
    (v w : Value) : Prop :=
  ∃ es es', knots.expose v = .map es ∧ w = .map es' ∧ Altered keys change es es'

/-- A mapping, and the one with each of its keys replaced by its spelling.  The keys can be
spelled, and no two of them become equal. -/
def Knots.Spells (knots : Knots) (v w : Value) : Prop :=
  ∃ es, knots.expose v = .map es ∧ hasLongKey es = false ∧ (es.map fun e => e.1.text).Nodup ∧
    w = .map (es.map fun e => (.str e.1.text, e.2))

/-- The statuses of an operation may be spelled. -/
def Operation.Respelled (knots : Knots) : Value → Value → Prop :=
  knots.Alters (· = .str "responses") knots.Spells

/-- The statuses of the operations of a path may be spelled. -/
def PathItem.Respelled (knots : Knots) : Value → Value → Prop :=
  knots.Alters (fun k => k = .str "get" ∨ k = .str "post") (Operation.Respelled knots)

/-- The statuses of the operations of some data may be spelled. -/
def Data.Respelled (data : Data) (value : Value) : Prop :=
  ∃ es es', data.value = .map es ∧ value = .map es' ∧
    Altered (· = .str "paths") (data.knots.Alters (fun _ => True) (PathItem.Respelled data.knots))
      es es'

namespace Value

variable {α : Type} {keys : Value → Prop} {change : Value → Value → Prop}
  {es es' : List (Value × Value)} {read : Value → Checked α}

namespace Altered

/-- A member is as it was, or changed if it is one of those that may be. -/
theorem get? (h : Altered keys change es es') (name : String) :
    (map es').get? name = (map es).get? name ∨
      ∃ v w, (map es).get? name = some v ∧ (map es').get? name = some w ∧
        keys (.str name) ∧ change v w := by
  induction h with
  | nil => exact .inl rfl
  | @cons e e' es es' hentry _ ih =>
    obtain ⟨hkey, hvalue⟩ := hentry
    simp only [Value.get?, entries, List.find?_cons, hkey] at ih ⊢
    by_cases hname : e.1 = .str name
    · simp only [hname, decide_true, Option.map_some, Option.some.injEq]
      obtain hsame | ⟨hat, hchange⟩ := hvalue
      · exact .inl hsame
      · exact .inr ⟨e.2, e'.2, rfl, rfl, hname ▸ hat, hchange⟩
    · simpa only [hname, decide_false] using ih

/-- A member that may not be changed is as it was. -/
theorem get?_of_not (h : Altered keys change es es') {name : String} (hname : ¬ keys (.str name)) :
    (map es').get? name = (map es).get? name :=
  (h.get? name).resolve_right fun ⟨_, _, _, _, hat, _⟩ => hname hat

/-- The keys are as they were. -/
theorem map_fst (h : Altered keys change es es') : es'.map Prod.fst = es.map Prod.fst := by
  induction h with
  | nil => rfl
  | cons hentry _ ih => rw [List.map_cons, List.map_cons, hentry.1, ih]

/-- The entries whose keys may not be changed are as they were. -/
theorem filter_of_not {p : Value → Bool} (h : Altered keys change es es')
    (hp : ∀ k, keys k → p k = false) :
    es'.filter (fun e => p e.1) = es.filter fun e => p e.1 := by
  induction h with
  | nil => rfl
  | @cons e e' es es' hentry _ ih =>
    obtain ⟨hkey, hvalue⟩ := hentry
    rw [List.filter_cons, List.filter_cons, hkey, ih]
    split
    · next hkept =>
      obtain hsame | ⟨hat, -⟩ := hvalue
      · rw [Prod.ext hkey hsame]
      · rw [hp _ hat] at hkept
        cases hkept
    · rfl

/-- A table is read as it was if its changed values are. -/
theorem checkTable (h : Altered keys change es es')
    (same : ∀ v w, change v w → read w = read v) :
    (map es').checkTable read = (map es).checkTable read := by
  have hentries : (es'.map fun e => Prod.mk <$> e.1.checkKey <*> (read e.2).under e.1.keyStep) =
      es.map fun e => Prod.mk <$> e.1.checkKey <*> (read e.2).under e.1.keyStep := by
    induction h with
    | nil => rfl
    | @cons e e' es es' hentry _ ih =>
      obtain ⟨hkey, hvalue⟩ := hentry
      have hread : read e'.2 = read e.2 := by
        obtain hsame | ⟨-, hchange⟩ := hvalue
        · rw [hsame]
        · exact same _ _ hchange
      rw [List.map_cons, List.map_cons, ih, hkey, hread]
  rw [Value.checkTable, Value.checkTable, hentries]

end Altered

/-- A field is read as it was if what may be changed is. -/
theorem Altered.memberOr (h : Altered keys change es es') (name : String) (default : α)
    (same : ∀ v w, change v w → read w = read v) :
    (map es').memberOr name default read = (map es).memberOr name default read := by
  obtain heq | ⟨v, w, hv, hw, -, hchange⟩ := h.get? name
  · exact fieldOr_congr default read heq heq
  · rw [Value.memberOr, Value.memberOr, fieldOr, fieldOr, field?, field?, hv, hw]
    simp only [same v w hchange]

/-- A field that may be null is read as it was if what may be changed is. -/
theorem Altered.memberOptional (h : Altered keys change es es') (name : String)
    (same : ∀ v w, change v w → v ≠ .null ∧ w ≠ .null ∧ read w = read v) :
    (map es').memberOptional name name read = (map es).memberOptional name name read := by
  refine h.memberOr name none fun v w hchange => ?_
  obtain ⟨hv, hw, hread⟩ := same v w hchange
  rw [checkOptional_of_ne_null hv, checkOptional_of_ne_null hw, hread]

end Value

/-- What is changed in a mapping is no null, and neither is what it becomes. -/
theorem Knots.Alters.ne_null {knots : Knots} {keys : Value → Prop} {change : Value → Value → Prop}
    {v w : Value} (h : knots.Alters keys change v w) : v ≠ .null ∧ w ≠ .null := by
  obtain ⟨es, es', hv, rfl, -⟩ := h
  refine ⟨?_, by simp⟩
  rintro rfl
  cases hv

/-! ## readings -/

variable {knots : Knots} {v w : Value}

/-- Spelling the statuses does not change the responses. -/
theorem Response.readTable_spelled (h : knots.Spells v w) (depth : Nat) :
    Response.readTable knots depth w = Response.readTable knots depth v := by
  obtain ⟨es, hv, hlong, nodup, rfl⟩ := h
  have hagain : spellKeys (es.map fun e => (.str e.1.text, e.2)) = spellKeys es := by
    rw [spellKeys_of_nodup nodup, spellKeys_of_nodup
      (by simpa [List.map_map, Function.comp_def] using nodup), List.map_map]
    rfl
  have hshort : hasLongKey (es.map fun e => (.str e.1.text, e.2)) = false := by
    simp [hasLongKey, isUnspellable]
  rw [readTable, readTable, hv]
  simp only [Knots.expose, hlong, hshort, hagain]

/-- Spelling the statuses does not change an operation. -/
theorem Operation.read_respelled (h : Operation.Respelled knots v w) :
    Operation.read knots w = Operation.read knots v := by
  obtain ⟨es, es', hv, rfl, halt⟩ := h
  have hsame (name : String) (hname : name ≠ "responses") :
      (Value.map es').get? name = (Value.map es).get? name :=
    halt.get?_of_not (by simpa using hname)
  rw [Operation.read, Operation.read, hv]
  simp only [Knots.expose, checkRecord]
  rw [halt.memberOr "responses" ∅ fun v w hs => Response.readTable_spelled hs _]
  simp only [memberOptional, textMember]
  rw [fieldOr_congr _ _ (hsame "operationId" (by decide)) (hsame "operation_id" (by decide)),
    fieldOr_congr _ _ (hsame "summary" (by decide)) (hsame "summary" (by decide)),
    fieldOr_congr _ _ (hsame "parameters" (by decide)) (hsame "parameters" (by decide))]

/-- Spelling the statuses does not change a path. -/
theorem PathItem.read_respelled (h : PathItem.Respelled knots v w) :
    PathItem.read knots w = PathItem.read knots v := by
  obtain ⟨es, es', hv, rfl, halt⟩ := h
  have hoperation (v w : Value) (hchange : Operation.Respelled knots v w) :
      v ≠ .null ∧ w ≠ .null ∧ Operation.read knots w = Operation.read knots v :=
    ⟨hchange.ne_null.1, hchange.ne_null.2, Operation.read_respelled hchange⟩
  have hhalved : es'.any (·.1.isHalved) = es.any (·.1.isHalved) := by
    have hany (es : List (Value × Value)) :
        es.any (·.1.isHalved) = (es.map Prod.fst).any isHalved := by
      rw [List.any_map]
      rfl
    rw [hany, hany, halt.map_fst]
  have hextra : extraOfEntries es' = extraOfEntries es := by
    have hfilter := halt.filter_of_not (p := fun k => k ≠ .str "get" ∧ k ≠ .str "post")
      (by rintro _ (rfl | rfl) <;> simp)
    rw [extraOfEntries, extraOfEntries, hfilter]
  rw [PathItem.read, PathItem.read, hv]
  simp only [Knots.expose, checkRecord, entries, hhalved, hextra]
  rw [halt.memberOptional "get" hoperation, halt.memberOptional "post" hoperation]
  rfl

/-- Spelling the statuses does not change a description. -/
theorem Document.read_respelled {data : Data} {value : Value} (h : data.Respelled value) :
    Document.read ⟨value, data.knots⟩ = Document.read data := by
  obtain ⟨v, knots⟩ := data
  obtain ⟨es, es', rfl, rfl, halt⟩ := h
  have hsame (name : String) (hname : name ≠ "paths") :
      (Value.map es').get? name = (Value.map es).get? name :=
    halt.get?_of_not (by simpa using hname)
  have hpaths (v w : Value)
      (hchange : knots.Alters (fun _ => True) (PathItem.Respelled knots) v w) :
      (knots.expose w).checkTable (PathItem.read knots) =
        (knots.expose v).checkTable (PathItem.read knots) := by
    obtain ⟨ps, ps', hv, rfl, hitems⟩ := hchange
    rw [hv]
    exact hitems.checkTable fun _ _ => PathItem.read_respelled
  rw [Document.read, Document.read]
  simp only [checkRecord]
  rw [halt.memberOr "paths" ∅ hpaths]
  simp only [memberOr]
  rw [fieldOr_congr _ _ (hsame "swagger" (by decide)) (hsame "swagger" (by decide)),
    fieldOr_congr _ _ (hsame "info" (by decide)) (hsame "info" (by decide)),
    fieldOr_congr _ _ (hsame "definitions" (by decide)) (hsame "definitions" (by decide)),
    fieldOr_congr _ _ (hsame "parameters" (by decide)) (hsame "parameters" (by decide))]

/-- Reading settles a description once and for all: what was read is read again where it is
written, and it does not matter whether the statuses of its operations are spelled. -/
theorem Document.read_settles {data : Data} {doc : Document}
    (valid : Document.read data = .accepted doc) :
    Document.read ⟨doc.toValue, data.knots⟩ = .accepted doc ∧
      ∀ value, data.Respelled value → Document.read ⟨value, data.knots⟩ = .accepted doc :=
  ⟨Document.read_again valid, fun _ h => (Document.read_respelled h).trans valid⟩

/-! ## a description with a number for a status -/

/-- The responses of an operation whose success has this status. -/
def sendResponses (status : Value) : Value :=
  .map [(status, .object [("schema", .object [("ref", .str "#/definitions/Coin")])]),
    (.str "default", .object [("description", .str "failed")])]

/-- A path with an operation, and with a remark. -/
def sendPath (status : Value) : Value :=
  .object [
    ("get", .object [("operation_id", .str "Send"), ("responses", sendResponses status)]),
    ("x-note", .null)]

/-- A description with this path. -/
def sendData (status : Value) : Value :=
  .object [
    ("swagger", .int 2),
    ("paths", .object [("/send", sendPath status)]),
    ("definitions", .object [("Coin", .object [("type", .str "object"),
      ("properties", .object [("denom", .object [("type", .str "string")])])])])]

/-- What these responses are read as. -/
def sendTable : Table Response :=
  .ofList [("200", { schema := some { ref := some "#/definitions/Coin" } }),
    ("default", { description := "failed" })]

/-- What the path is read as. -/
def sendItem : PathItem where
  get := some { operationId := some "Send", responses := sendTable }
  extra := .singleton "x-note" .null

/-- What the description is read as. -/
def sendDocument : Document where
  swagger := some "2"
  paths := .singleton "/send" sendItem
  definitions := .singleton "Coin" {
    type := some "object"
    properties := some [("denom", { type := some "string" })] }

/-- The number can be spelled. -/
theorem spells_sendResponses :
    Knots.Spells [] (sendResponses (.int 200)) (sendResponses (.str "200")) := by
  have hshort : hasLongKey (sendResponses (.int 200)).entries = false := by
    have hlog : ¬ 3 * Text.Numeral.maxDigits < Nat.log2 200 := by decide
    simp [sendResponses, entries, hasLongKey, isUnspellable, isLong, hlog]
  exact ⟨_, rfl, hshort, by decide, rfl⟩

theorem readTable_sendResponses :
    Response.readTable [] (maxDepth - 1) (sendResponses (.int 200)) = .accepted sendTable := by
  obtain ⟨es, hes, hshort, -, -⟩ := spells_sendResponses
  cases hes
  rw [Response.readTable]
  show (if _ then _ else _) = _
  rw [hshort]
  rfl

theorem read_sendPath : PathItem.read [] (sendPath (.int 200)) = .accepted sendItem := by
  have hget : Operation.read [] (.object [("operation_id", .str "Send"),
      ("responses", sendResponses (.int 200))]) = .accepted
        { operationId := some "Send", responses := sendTable } := by
    refine Operation.mk_eq_accepted.2 ⟨rfl, rfl, rfl, ?_⟩
    exact memberOr_of_get? rfl readTable_sendResponses
  refine PathItem.mk_eq_accepted.2 ⟨?_, rfl, rfl⟩
  exact Checked.under_eq_accepted.2 (checkOptional_eq_some.2 ⟨object_ne_null _, hget⟩)

/-- The status of the description may be a number or a text. -/
theorem Document.read_settles_send :
    Document.read (sendData (.int 200)) = .accepted sendDocument ∧
      Document.read sendDocument.toValue = .accepted sendDocument ∧
      Document.read (sendData (.str "200")) = .accepted sendDocument := by
  have hpaths : checkTable (PathItem.read []) (.object [("/send", sendPath (.int 200))]) =
      .accepted (.singleton "/send" sendItem) := by
    show Table.ofList <$> (List.cons <$> (Prod.mk <$> _ <*> (PathItem.read [] _).under _) <*> _) = _
    rw [read_sendPath]
    rfl
  have valid : Document.read (sendData (.int 200)) = .accepted sendDocument := by
    refine Document.mk_eq_accepted.2 ⟨rfl, rfl, ?_, rfl, rfl⟩
    exact memberOr_of_get? rfl hpaths
  have settled := Document.read_settles valid
  have hget : Operation.Respelled []
      (.object [("operation_id", .str "Send"), ("responses", sendResponses (.int 200))])
      (.object [("operation_id", .str "Send"), ("responses", sendResponses (.str "200"))]) :=
    ⟨_, _, rfl, rfl,
      .cons ⟨rfl, .inl rfl⟩ <| .cons ⟨rfl, .inr ⟨rfl, spells_sendResponses⟩⟩ .nil⟩
  have hpath : PathItem.Respelled [] (sendPath (.int 200)) (sendPath (.str "200")) :=
    ⟨_, _, rfl, rfl, .cons ⟨rfl, .inr ⟨.inl rfl, hget⟩⟩ <| .cons ⟨rfl, .inl rfl⟩ .nil⟩
  exact ⟨valid, settled.1, settled.2 _ ⟨_, _, rfl, rfl,
    .cons ⟨rfl, .inl rfl⟩ <|
      .cons ⟨rfl, .inr ⟨rfl, _, _, rfl, rfl, .cons ⟨rfl, .inr ⟨trivial, hpath⟩⟩ .nil⟩⟩ <|
        .cons ⟨rfl, .inl rfl⟩ .nil⟩⟩

end ChainApi
