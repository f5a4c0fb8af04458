import ChainApi.Proofs.Records
import ChainApi.Proofs.SameTypes

/-!
# ChainApi.Proofs.Accounting

What becomes of the paths of a document.  Each path gives a record or a notice that it is
passed over, and the record of a path is the one that it has in a document of its own.

* `Logged.Reports` — a computation whose notices are all of some kind;
* `Source.operationTypes_reports` — the notices of an operation are about its parameters
  and its schemas;
* `Source.size_addPath`, `Source.size_extractPaths` — one path, and all paths, counted;
* `Source.extract_only` — a document with a single path;
* `Source.extract_accounts` — the ids, the records and the notices of a document.
-/

namespace ChainApi

/-! ## notices of some kind -/

/-- All notices of a computation are of some kind. -/
def Logged.Reports (kind : Notice → Prop) (x : Logged ε α) : Prop := ∀ n ∈ x.log, kind n

namespace Logged

variable {ε : Type u} {δ : Type w} {α β : Type v} {kind : Notice → Prop} {x : Logged ε α}
  {f : α → Logged ε β}

theorem Reports.pure (a : α) : Reports kind (pure a : Logged ε α) := nofun

theorem Reports.fail (e : ε) : Reports kind (throw e : Logged ε α) := nofun

theorem Reports.note {n : Notice} (h : kind n) :
    Reports kind (note n : Logged ε PUnit.{v + 1}) := by
  intro m hm
  rw [List.mem_singleton.1 hm]
  exact h

/-- Two steps report what each of them does. -/
theorem Reports.bind (hx : Reports kind x) (hf : ∀ a, Reports kind (f a)) :
    Reports kind (x >>= f) := by
  obtain ⟨l, e | a⟩ := x
  · exact hx
  · intro n hn
    rcases List.mem_append.1 hn with hn | hn
    · exact hx n hn
    · exact hf a n hn

theorem Reports.mapError (hx : Reports kind x) (g : ε → δ) : Reports kind (x.mapError g) := hx

end Logged

section Schemas

variable {kind : Notice → Prop} {defs : Table Schema} {inline : Bool} {opened : List String}
  {s : Schema} {fields : List (String × Schema)}

theorem expressFields_reports (h : ∀ p ∈ fields, p.1 ≠ typeTag →
    (p.2.express defs inline opened).Reports kind) :
    (expressFields defs inline opened fields).Reports kind := by
  induction fields with
  | nil =>
    rw [expressFields_nil]
    exact .pure _
  | cons field rest ih =>
    obtain ⟨name, s⟩ := field
    have hrest := ih fun p listed => h p (List.mem_cons_of_mem _ listed)
    by_cases htag : name = typeTag
    · subst htag
      rw [expressFields_cons_typeTag]
      exact hrest.bind fun _ => .pure _
    · rw [expressFields_cons htag]
      exact (h (name, s) List.mem_cons_self htag).bind fun _ => hrest.bind fun _ => .pure _

/-- Only a schema of a kind that has no counterpart adds a notice to those about its parts. -/
theorem Schema.expressShape_reports (unsupported : ∀ name, kind (.kindUnsupported name))
    (parts : ∀ t, s.Part t → (t.express defs inline opened).Reports kind) :
    (s.expressShape defs inline opened).Reports kind := by
  cases hkind : s.kind with
  | object =>
    rw [expressShape_object hkind]
    exact (expressFields_reports fun p listed other =>
      parts p.2 (.property hkind listed other)).bind fun _ => .pure _
  | array =>
    cases hitems : s.items with
    | none =>
      rw [expressShape_array_of_none hkind hitems]
      exact .pure _
    | some items =>
      rw [expressShape_array_of_some hkind hitems]
      exact (parts items (.items hkind hitems)).bind fun _ => .pure _
  | number | string | boolean =>
    rw [expressShape, hkind]
    exact .pure _
  | other name =>
    rw [expressShape, hkind]
    exact (Logged.Reports.note (unsupported name)).bind fun _ => .pure _

/-- The only notices about a schema are on kinds that have no counterpart. -/
theorem Schema.express_reports (unsupported : ∀ name, kind (.kindUnsupported name))
    (opened : List String) (s : Schema) : (s.express defs inline opened).Reports kind := by
  induction opened, s using express_induction defs with
  | plain opened s ref ih =>
    rw [express_of_ref_none ref]
    exact expressShape_reports unsupported ih
  | missing opened s pointer ref missing =>
    rw [express_of_missing ref missing]
    exact .pure _
  | found opened s pointer target ref found ihParts ih =>
    rw [express_of_found ref found]
    split
    · split
      · exact .fail _
      · next fresh => exact ih fresh
    · exact expressShape_reports unsupported ihParts

theorem Schema.annotate_reports (unsupported : ∀ name, kind (.kindUnsupported name))
    (node : Option Schema) : (Schema.annotate defs inline node).Reports kind := by
  cases node with
  | none => exact .pure _
  | some s => exact s.express_reports unsupported []

end Schemas

/-! ## notices about operations -/

/-- Is a notice about a parameter or a schema of an operation? -/
inductive Notice.AboutOperation : Notice → Prop
  | dangling (pointer path chain : String) : AboutOperation (.parameterDangling pointer path chain)
  | unnamed (location : Option String) : AboutOperation (.parameterUnnamed location)
  | misplaced (name : String) (location : Option String) :
      AboutOperation (.parameterMisplaced name location)
  | unsupported (name : String) : AboutOperation (.kindUnsupported name)

section Parameters

variable {defs : Table Schema} {options : Options}

theorem property_reports (p : Parameter) :
    (p.property defs options).Reports Notice.AboutOperation := by
  cases p.placed with
  | unnamed hname =>
    rw [Parameter.property_of_unnamed hname]
    exact (Logged.Reports.note (.unnamed _)).bind fun _ => .pure _
  | path hname hpath =>
    rw [Parameter.property_of_path hname hpath]
    exact .pure _
  | query hname hquery =>
    rw [Parameter.property_of_query hname hquery]
    exact .pure _
  | body hname hbody =>
    rw [Parameter.property_of_body hname hbody]
    exact (Schema.annotate_reports .unsupported p.schema).bind fun _ => .pure _
  | misplaced hname helsewhere =>
    rw [Parameter.property_of_misplaced hname helsewhere]
    exact (Logged.Reports.note (.misplaced _ _)).bind fun _ => .pure _

theorem properties_reports (ps : List Parameter) :
    (properties defs options ps).Reports Notice.AboutOperation := by
  induction ps with
  | nil => exact .pure _
  | cons p ps ih =>
    rw [properties]
    exact (property_reports p).bind fun _ => ih.bind fun _ => .pure _

end Parameters

namespace Source

variable {source : Source} {found c : Catalogue} {path id : String} {item : PathItem}
  {paths : List (String × PathItem)} {method : Method} {op : Operation} {r : OperationTypes}

theorem operationParameters_reports (source : Source) (path : String) (op : Operation) :
    (source.operationParameters path op).Reports Notice.AboutOperation := by
  rw [operationParameters_eq]
  intro n hn
  obtain ⟨p, -, hp⟩ := List.mem_filterMap.1 hn
  rw [danglingNotice] at hp
  split at hp
  · contradiction
  · cases hp
    exact .dangling _ _ _

theorem responseType_reports {kind : Notice → Prop}
    (unsupported : ∀ name, kind (.kindUnsupported name)) (source : Source) (op : Operation)
    (status : String) : (source.responseType op status).Reports kind := by
  rw [responseType]
  split
  · exact .pure _
  · exact ((Schema.annotate_reports unsupported _).mapError _).bind fun _ => .pure _

/-- The notices of an operation are about its parameters and its schemas. -/
theorem operationTypes_reports (source : Source) (path : String) (method : Method)
    (op : Operation) : (source.operationTypes path method op).Reports Notice.AboutOperation := by
  rw [operationTypes]
  refine (operationParameters_reports source path op).bind fun params => ?_
  have hresponse := responseType_reports Notice.AboutOperation.unsupported source op
  refine Logged.Reports.bind ?_ fun types => (hresponse "200").bind fun success =>
    (hresponse "default").bind fun error => .pure _
  exact ((properties_reports params).bind fun _ => .pure _).mapError _

end Source

/-! ## counting -/

namespace Notice

/-- Does a notice say that a path declares neither of the supported methods? -/
def isPathSkipped : Notice → Bool
  | pathSkipped .. => true
  | _ => false

/-- Does a notice say that the id of an operation was taken by an earlier path? -/
def isOperationRepeated : Notice → Bool
  | operationRepeated .. => true
  | _ => false

/-- The number of paths that are passed over according to a log. -/
def passedOver (log : List Notice) : Nat :=
  log.countP isPathSkipped + log.countP isOperationRepeated

theorem passedOver_append (l m : List Notice) :
    passedOver (l ++ m) = passedOver l + passedOver m := by
  simp only [passedOver, List.countP_append]
  omega

/-- A notice about an operation passes no path over. -/
theorem passedOver_eq_zero {log : List Notice} (h : ∀ n ∈ log, AboutOperation n) :
    passedOver log = 0 := by
  have hskipped : log.countP isPathSkipped = 0 := by
    rw [List.countP_eq_zero]
    intro n hn
    cases h n hn <;> exact Bool.false_ne_true
  have hrepeated : log.countP isOperationRepeated = 0 := by
    rw [List.countP_eq_zero]
    intro n hn
    cases h n hn <;> exact Bool.false_ne_true
  rw [passedOver, hskipped, hrepeated]

end Notice

namespace Source

variable {source : Source} {found c : Catalogue} {path id : String} {item : PathItem}
  {paths : List (String × PathItem)} {method : Method} {op : Operation} {r : OperationTypes}

/-- One path: it gives one more record, or one notice that it is passed over. -/
theorem size_addPath (h : (source.addPath found path item).outcome = .ok c) :
    c.size + Notice.passedOver (source.addPath found path item).log = found.size + 1 := by
  cases addPath_eq_ok_iff.1 h with
  | skipped unsupported =>
    rw [addPath_of_unsupported unsupported]
    rfl
  | repeated selected named nonempty taken =>
    rw [addPath_of_taken selected named nonempty taken]
    rfl
  | @added method op id r selected named nonempty free typed =>
    have hquiet := Notice.passedOver_eq_zero (operationTypes_reports source path method op)
    rw [addPath_of_free selected named nonempty free, Logged.log_bind_of_ok typed,
      Notice.passedOver_append, hquiet, Table.size, Table.entries_insert_of_new free,
      List.length_append]
    rfl

/-- All paths: each one gives a record or a notice. -/
theorem size_extractPaths (h : (source.extractPaths found paths).outcome = .ok c) :
    c.size + Notice.passedOver (source.extractPaths found paths).log =
      found.size + paths.length := by
  induction paths generalizing found with
  | nil =>
    rw [extractPaths, Logged.pure_eq, Except.ok.injEq] at h
    rw [h]
    rfl
  | cons p paths ih =>
    obtain ⟨path, item⟩ := p
    rw [extractPaths] at h ⊢
    obtain ⟨next, hnext, hrest⟩ := Logged.outcome_bind_eq_ok.1 h
    have hfirst := size_addPath hnext
    have hothers := ih hrest
    rw [Logged.log_bind_of_ok hnext, Notice.passedOver_append, List.length_cons]
    omega

/-- All paths of a document, counted. -/
theorem size_extract (h : source.extract.outcome = .ok c) :
    c.size + Notice.passedOver source.extract.log = source.document.paths.size := by
  have hpaths := extractPaths_eq_ok_iff.2 (extract_eq_ok_iff.1 h)
  have hcount := size_extractPaths hpaths
  have hstart : (∅ : Catalogue).size = 0 := rfl
  have hend : Notice.passedOver [.extracted c.size source.chain] = 0 := rfl
  rw [extract, Logged.log_bind_of_ok hpaths, Notice.passedOver_append]
  rw [hstart, Nat.zero_add] at hcount
  exact hcount

/-! ## a path of its own -/

/-- The same source with a single path: the definitions and the shared parameters stay. -/
def only (source : Source) (path : String) (item : PathItem) : Source :=
  { source with document := { source.document with paths := .singleton path item } }

theorem sameTypes_only (source : Source) (path : String) (item : PathItem) :
    (source.only path item).SameTypes source where
  chain := rfl
  parameters := rfl
  bodyParams := rfl
  pagination := rfl
  annotate _ := rfl

/-- A document with a single path has the record of its operation. -/
theorem extract_only (selected : item.selected = some (method, op))
    (named : op.operationId = some id) (nonempty : id ≠ "")
    (typed : (source.operationTypes path method op).outcome = .ok r) :
    (source.only path item).extract.outcome = .ok (.singleton id r) := by
  rw [← (source.sameTypes_only path item).operationTypes] at typed
  have hnew : id ∉ (∅ : Catalogue).keys := by simp
  have hadds := AddsPath.added selected named nonempty hnew typed
  have hsingle : (∅ : Catalogue).insert id r = .singleton id r :=
    Table.ext (Table.entries_insert_of_new hnew r)
  exact extract_eq_ok_iff.2 (.cons (hsingle ▸ hadds) .nil)

/-- One path: its operation has an id, if it selects one. -/
theorem AddsPath.named (h : source.AddsPath found path item c) (selected : item.selected.isSome) :
    ∃ id, id ≠ "" ∧ item.operationId? = some id := by
  cases h with
  | skipped unsupported => simp [unsupported] at selected
  | repeated hselected named nonempty _ =>
    exact ⟨_, nonempty, by rw [PathItem.operationId?, hselected, Option.bind_some, named]⟩
  | added hselected named nonempty _ _ =>
    exact ⟨_, nonempty, by rw [PathItem.operationId?, hselected, Option.bind_some, named]⟩

/-- All paths: each operation that is selected has an id. -/
theorem AddsPaths.named (h : source.AddsPaths found paths c) :
    ∀ p ∈ paths, p.2.selected.isSome → ∃ id, id ≠ "" ∧ p.2.operationId? = some id := by
  induction h with
  | nil => exact List.forall_mem_nil _
  | cons adds _ ih => exact List.forall_mem_cons.2 ⟨adds.named, ih⟩

/-- A document with two operations, a path without a supported method, and a path that
repeats an id. -/
def busySource : Source where
  chain := "kyve"
  document := { paths := ⟨[("/supply", Catalogue.barePath "Supply" none),
    ("/reset", { extra := .singleton "put" .null }),
    ("/pool", Catalogue.barePath "Pool" none),
    ("/v2/supply", Catalogue.barePath "Supply" (some "again"))], by decide⟩ }

/-- Its catalogue. -/
def busyCatalogue : Catalogue :=
  ⟨[("Supply", Catalogue.bareRecord "kyve" "/supply" none),
    ("Pool", Catalogue.bareRecord "kyve" "/pool" none)], by decide⟩

end Source

end ChainApi
