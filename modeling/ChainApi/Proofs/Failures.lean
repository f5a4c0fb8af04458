import ChainApi.Proofs.Build
import ChainApi.Proofs.Cycle
import Mathlib.Data.Nat.Find

/-!
# ChainApi.Proofs.Failures

Which failure a run ends with.  Chains are taken one after the other, and so are the
paths of a document and the schemas of an operation.  At each of these levels the run
ends with the failure of the first element that is at fault, where it may depend on the
elements before whether an element is.

* `FirstFault` — the failure of the first element that is at fault;
* `Logged.FailsBy` — a computation that fails as the first faulty element of a list does;
* `Source.operationTypes_eq_error_iff` — the failure of an operation is that of the first
  of its schemas that meets a cycle;
* `Source.addPath_eq_error_iff` — the failure of a path;
* `Catalogue.build_firstFault` — the failures of a document and of a list of chains.
-/

namespace ChainApi

/-! ## the first fault -/

/-- The failure of the first element of a list that is at fault.  Whether an element is at
fault, and for what, may depend on the elements before it. -/
def FirstFault (fault : List α → α → ε → Prop) (l : List α) (e : ε) : Prop :=
  ∃ i x, l[i]? = some x ∧ fault (l.take i) x e ∧
    ∀ j < i, ∀ y, l[j]? = some y → ∀ e', ¬ fault (l.take j) y e'

section FirstFault

variable {fault : List α → α → ε → Prop} {x : α} {l m : List α} {e : ε}

theorem not_firstFault_nil : ¬ FirstFault fault [] e := by
  rintro ⟨i, x, hx, -⟩
  contradiction

/-- The first element is at fault, or else it is the first fault of the others. -/
theorem firstFault_cons : FirstFault fault (x :: l) e ↔
    fault [] x e ∨ (∀ e', ¬ fault [] x e') ∧
      FirstFault (fun before => fault (x :: before)) l e := by
  constructor
  · rintro ⟨i, y, hy, hfault, hfirst⟩
    cases i with
    | zero =>
      cases hy
      exact .inl hfault
    | succ i =>
      refine .inr ⟨fun e' => hfirst 0 i.succ_pos x rfl e', i, y, hy, hfault, ?_⟩
      intro j hj z hz e'
      exact hfirst (j + 1) (Nat.succ_lt_succ hj) z hz e'
  · rintro (hfault | ⟨hsound, i, y, hy, hfault, hfirst⟩)
    · exact ⟨0, x, rfl, hfault, nofun⟩
    · refine ⟨i + 1, y, hy, hfault, fun j hj z hz e' => ?_⟩
      cases j with
      | zero =>
        cases hz
        exact hsound e'
      | succ j => exact hfirst j (Nat.lt_of_succ_lt_succ hj) z hz e'

/-- There is a first fault only if some element is at fault. -/
theorem FirstFault.exists_fault (h : FirstFault fault l e) :
    ∃ before, ∃ x ∈ l, fault before x e := by
  obtain ⟨i, x, hx, hfault, -⟩ := h
  exact ⟨_, x, List.mem_of_getElem? hx, hfault⟩

/-- If some element is at fault, there is a first fault. -/
theorem exists_firstFault {i : Nat} (hx : l[i]? = some x) (hfault : fault (l.take i) x e) :
    ∃ e', FirstFault fault l e' := by
  classical
  have hsome : ∃ i, ∃ x e, l[i]? = some x ∧ fault (l.take i) x e := ⟨i, x, e, hx, hfault⟩
  obtain ⟨y, e', hy, hfault'⟩ := Nat.find_spec hsome
  refine ⟨e', Nat.find hsome, y, hy, hfault', fun j hj z hz e'' hz' => ?_⟩
  exact Nat.find_min hsome hj ⟨z, e'', hz, hz'⟩

/-- If the faults do not depend on what stands before, then the first fault of two lists is
that of the first one, or else that of the second one. -/
theorem firstFault_append {fault : α → ε → Prop} :
    FirstFault (fun _ => fault) (l ++ m) e ↔
      FirstFault (fun _ => fault) l e ∨
        (∀ e', ¬ FirstFault (fun _ => fault) l e') ∧ FirstFault (fun _ => fault) m e := by
  induction l with
  | nil => simp [not_firstFault_nil]
  | cons x l ih =>
    simp only [List.cons_append, firstFault_cons, ih]
    by_cases hsound : ∀ e', ¬ fault x e'
    · simp [hsound]
    · simp only [hsound, false_and, or_false]

/-- Faults are told in other words. -/
theorem firstFault_map {fault : α → ε → Prop} {word : ε → δ} {d : δ} :
    FirstFault (fun _ x d => ∃ e, fault x e ∧ word e = d) l d ↔
      ∃ e, FirstFault (fun _ => fault) l e ∧ word e = d := by
  induction l with
  | nil => simp [not_firstFault_nil]
  | cons x l ih =>
    have hsound : (∀ d', ¬ ∃ e, fault x e ∧ word e = d') ↔ ∀ e, ¬ fault x e :=
      ⟨fun h e hx => h _ ⟨e, hx, rfl⟩, fun h _ hx => hx.elim fun e hx => h e hx.1⟩
    simp only [firstFault_cons, ih, hsound]
    constructor
    · rintro (⟨e, hx, hword⟩ | ⟨hnone, e, hl, hword⟩)
      · exact ⟨e, .inl hx, hword⟩
      · exact ⟨e, .inr ⟨hnone, hl⟩, hword⟩
    · rintro ⟨e, hx | ⟨hnone, hl⟩, hword⟩
      · exact .inl ⟨e, hx, hword⟩
      · exact .inr ⟨hnone, e, hl, hword⟩

end FirstFault

/-! ## computations that fail by a list -/

namespace Logged

/-- What two steps fail with, told by what is at fault: the fault of the first step, or else
that of the second one. -/
theorem outcome_bind_eq_error_of_faults {x : Logged ε α} {f : α → Logged ε β}
    {fault later : ε → Prop} (hx : ∀ e, x.outcome = .error e ↔ fault e)
    (hf : ∀ a, x.outcome = .ok a → ∀ e, (f a).outcome = .error e ↔ later e) {e : ε} :
    (x >>= f).outcome = .error e ↔ fault e ∨ (∀ e', ¬ fault e') ∧ later e := by
  rw [outcome_bind_eq_error, hx]
  refine or_congr_right ?_
  constructor
  · rintro ⟨a, ha, hfails⟩
    refine ⟨fun e' hfault => ?_, (hf a ha e).1 hfails⟩
    rw [(hx e').2 hfault] at ha
    contradiction
  · rintro ⟨hsound, hlater⟩
    cases ha : x.outcome with
    | error e' => exact absurd ((hx e').1 ha) (hsound e')
    | ok a => exact ⟨a, rfl, (hf a ha e).2 hlater⟩

/-- A computation that fails exactly as the first faulty element of a list does. -/
def FailsBy (fault : α → ε → Prop) (l : List α) (x : Logged ε β) : Prop :=
  ∀ e, x.outcome = .error e ↔ FirstFault (fun _ => fault) l e

section FailsBy

variable {fault : α → ε → Prop} {l m : List α} {x : Logged ε β} {f : β → Logged ε γ}

theorem FailsBy.ok {log : List Notice} {b : β} :
    FailsBy fault [] (⟨log, .ok b⟩ : Logged ε β) := fun _ =>
  iff_of_false nofun not_firstFault_nil

theorem FailsBy.single {a : α} (h : ∀ e, x.outcome = .error e ↔ fault a e) :
    FailsBy fault [a] x := by
  intro e
  rw [firstFault_cons, h]
  simp [not_firstFault_nil]

/-- Two steps fail by the elements of the first one, followed by those of the second one. -/
theorem FailsBy.bind (hx : FailsBy fault l x) (hf : ∀ b, FailsBy fault m (f b)) :
    FailsBy fault (l ++ m) (x >>= f) := by
  intro e
  rw [firstFault_append]
  exact outcome_bind_eq_error_of_faults hx fun b _ => hf b

/-- A last step that only arranges the result is no cause of failure. -/
theorem FailsBy.bind_pure (hx : FailsBy fault l x) (g : β → δ) :
    FailsBy fault l (x >>= fun b => Pure.pure (g b)) := fun e =>
  outcome_bind_pure_eq_error.trans (hx e)

theorem FailsBy.mapError (hx : FailsBy fault l x) (word : ε → δ) :
    FailsBy (fun a d => ∃ e, fault a e ∧ word e = d) l (x.mapError word) := by
  intro d
  rw [outcome_mapError_eq_error, firstFault_map]
  exact exists_congr fun e => and_congr_left fun _ => hx e

end FailsBy

end Logged

/-! ## operations -/

/-- Away from references nothing fails: a reference that is not followed counts as a
schema without one. -/
theorem Schema.not_fails_express_of_not_inline (defs : Table Schema) (opened : List String)
    (s : Schema) : ¬ (s.express defs false opened).Fails := by
  induction opened, s using express_induction defs with
  | plain opened s ref ih =>
    rw [express_of_ref_none ref, fails_expressShape_iff]
    exact fun ⟨t, part, hfails⟩ => ih t part hfails
  | missing opened s pointer ref missing =>
    rw [express_of_missing ref missing]
    exact Logged.not_fails_ok _ _
  | found opened s pointer target ref found ih =>
    rw [express_of_found ref found, if_neg Bool.false_ne_true, fails_expressShape_iff]
    exact fun ⟨t, part, hfails⟩ => ih t part hfails

/-- A schema that cannot be expressed, and the cycle that it fails for. -/
def Schema.FailsWith (defs : Table Schema) (inline : Bool) (s : Schema) (cycle : SchemaCycle) :
    Prop := (s.express defs inline []).outcome = .error cycle

/-- A schema that meets a cycle, and the cycle that it fails for. -/
def Schema.CycleFault (defs : Table Schema) (s : Schema) (cycle : SchemaCycle) : Prop :=
  s.MeetsCycle defs ∧ (s.express defs true []).outcome = .error cycle

theorem Schema.failsWith_true_iff {defs : Table Schema} {s : Schema} {cycle : SchemaCycle} :
    s.FailsWith defs true cycle ↔ s.CycleFault defs cycle :=
  ⟨fun h => ⟨meetsCycle_of_fails ⟨cycle, h⟩, h⟩, fun h => h.2⟩

/-- The schema of the body that a parameter with a name describes. -/
def Parameter.namedBody (p : Parameter) : Option Schema :=
  if p.name.isSome ∧ p.location = some "body" then p.schema else none

/-- The schema of the response to a status. -/
def Operation.responseSchema (op : Operation) (status : String) : Option Schema :=
  (op.responses.get? status).bind (·.schema)

/-- The id of the operation that a path stands for. -/
def PathItem.operationId? (item : PathItem) : Option String :=
  item.selected.bind fun selected => selected.2.operationId

/-- The schemas of an operation in the order in which they are expressed: those of the
bodies, that of the response to a success, and that of the response to a failure. -/
def Source.schemas (source : Source) (op : Operation) : List Schema :=
  (source.listedParameters op).filterMap Parameter.namedBody ++
    ((op.responseSchema "200").toList ++ (op.responseSchema "default").toList)

section Operations

variable {defs : Table Schema} {inline : Bool} {options : Options}

theorem annotate_failsBy (node : Option Schema) :
    (Schema.annotate defs inline node).FailsBy (Schema.FailsWith defs inline) node.toList := by
  cases node with
  | none => exact .ok
  | some s => exact .single fun _ => Iff.rfl

theorem property_failsBy (p : Parameter) :
    (p.property defs options).FailsBy (Schema.FailsWith defs options.resolveRefs)
      p.namedBody.toList := by
  rw [Parameter.namedBody]
  cases p.placed with
  | unnamed hname =>
    rw [Parameter.property_of_unnamed hname, hname]
    exact .ok
  | path hname hpath =>
    rw [Parameter.property_of_path hname hpath, hname, hpath]
    exact .ok
  | query hname hquery =>
    rw [Parameter.property_of_query hname hquery, hname, hquery]
    exact .ok
  | body hname hbody =>
    rw [Parameter.property_of_body hname hbody, hname, hbody]
    exact (annotate_failsBy p.schema).bind_pure _
  | misplaced hname helsewhere =>
    have hbody : p.location ≠ some "body" := fun hbody => helsewhere (by rw [hbody]; decide)
    rw [Parameter.property_of_misplaced hname helsewhere, if_neg fun h => hbody h.2]
    exact .ok

theorem properties_failsBy (ps : List Parameter) :
    (properties defs options ps).FailsBy (Schema.FailsWith defs options.resolveRefs)
      (ps.filterMap Parameter.namedBody) := by
  induction ps with
  | nil => exact .ok
  | cons p ps ih =>
    have hlist : (p :: ps).filterMap Parameter.namedBody =
        p.namedBody.toList ++ ps.filterMap Parameter.namedBody := by
      rw [List.filterMap_cons]
      cases p.namedBody <;> rfl
    rw [properties, hlist]
    exact (property_failsBy p).bind fun first => ih.bind_pure _

end Operations

namespace Source

variable {source : Source} {found c : Catalogue} {path : String} {item : PathItem}
  {op : Operation} {method : Method} {e : ExtractionError}

/-- A schema that cannot be expressed, and the failure of the document. -/
def SchemaFault (source : Source) (s : Schema) (e : ExtractionError) : Prop :=
  ∃ cycle, s.FailsWith source.document.definitions source.options.resolveRefs cycle ∧
    .cycle cycle = e

theorem responseType_failsBy (source : Source) (op : Operation) (status : String) :
    (source.responseType op status).FailsBy source.SchemaFault
      (op.responseSchema status).toList := by
  rw [responseType, Operation.responseSchema]
  cases op.responses.get? status with
  | none => exact .ok
  | some response => exact ((annotate_failsBy response.schema).mapError _).bind_pure _

theorem operationTypes_failsBy (source : Source) (path : String) (method : Method)
    (op : Operation) :
    (source.operationTypes path method op).FailsBy source.SchemaFault (source.schemas op) := by
  rw [operationTypes, operationParameters_eq, Logged.bind_ok]
  refine Logged.FailsBy.bind ?_ fun types => (responseType_failsBy source op "200").bind
    fun success => (responseType_failsBy source op "default").bind_pure _
  exact ((properties_failsBy _).bind_pure _).mapError _

/-- An operation fails only if references are followed, and then with the failure of the
first of its schemas that meets a cycle. -/
theorem operationTypes_eq_error_iff :
    (source.operationTypes path method op).outcome = .error e ↔
      ∃ cycle, e = .cycle cycle ∧ source.options.resolveRefs = true ∧
        FirstFault (fun _ => Schema.CycleFault source.document.definitions)
          (source.schemas op) cycle := by
  have hwords : FirstFault (fun _ => source.SchemaFault) (source.schemas op) e ↔
      ∃ cycle, FirstFault (fun _ => Schema.FailsWith source.document.definitions
        source.options.resolveRefs) (source.schemas op) cycle ∧ .cycle cycle = e :=
    firstFault_map
  rw [operationTypes_failsBy source path method op e, hwords]
  refine exists_congr fun cycle => ?_
  cases hinline : source.options.resolveRefs with
  | false =>
    refine iff_of_false ?_ fun h => Bool.false_ne_true h.2.1
    rintro ⟨hfirst, -⟩
    obtain ⟨_, s, -, hfails⟩ := hfirst.exists_fault
    exact s.not_fails_express_of_not_inline _ _ ⟨cycle, hfails⟩
  | true =>
    have hfault : (fun _ : List Schema => Schema.FailsWith source.document.definitions true) =
        fun _ => Schema.CycleFault source.document.definitions :=
      funext fun _ => funext fun s => funext fun cycle => propext Schema.failsWith_true_iff
    rw [hfault, eq_comm (a := ExtractionError.cycle cycle)]
    simp [and_comm]

/-! ## paths -/

/-- A path that is at fault, and the failure of the document.  Its operation has no id; or
else references are followed, the id is new in the document, and the first schema of the
operation that meets a cycle fails. -/
inductive PathFault (source : Source) (before : List (String × PathItem)) :
    String × PathItem → ExtractionError → Prop
  | unnamed {path : String} {item : PathItem} {method : Method} {op : Operation}
      (selected : item.selected = some (method, op))
      (unnamed : op.operationId = none ∨ op.operationId = some "") :
      PathFault source before (path, item) (.missingOperationId source.chain path)
  | cycle {path : String} {item : PathItem} {method : Method} {op : Operation} {id : String}
      {cycle : SchemaCycle} (selected : item.selected = some (method, op))
      (named : op.operationId = some id) (nonempty : id ≠ "")
      (new : ∀ p ∈ before, p.2.operationId? ≠ some id)
      (follows : source.options.resolveRefs = true)
      (first : FirstFault (fun _ => Schema.CycleFault source.document.definitions)
        (source.schemas op) cycle) :
      PathFault source before (path, item) (.cycle cycle)

/-- The operations found so far are those of the given paths. -/
def Accounts (found : Catalogue) (before : List (String × PathItem)) : Prop :=
  ∀ id ≠ "", id ∈ found.keys ↔ ∃ p ∈ before, p.2.operationId? = some id

variable {before paths : List (String × PathItem)}

theorem Accounts.addsPath (h : Accounts found before) (adds : source.AddsPath found path item c) :
    Accounts c (before ++ [(path, item)]) := by
  intro id nonempty
  simp only [List.mem_append, List.mem_singleton, or_and_right, exists_or, exists_eq_left]
  rw [← h id nonempty, PathItem.operationId?]
  cases adds with
  | skipped unsupported => simp [unsupported]
  | @repeated method op id' selected named _ taken =>
    rw [selected, Option.bind_some, named, Option.some.injEq]
    exact ⟨.inl, Or.rec (fun known => known) fun heq => heq ▸ taken⟩
  | @added method op id' r selected named _ free typed =>
    rw [selected, Option.bind_some, named, Option.some.injEq, Table.keys_insert, if_neg free,
      List.mem_append, List.mem_singleton, eq_comm (a := id)]

/-- A path fails to be added if and only if it is at fault. -/
theorem addPath_eq_error_iff (accounts : Accounts found before) :
    (source.addPath found path item).outcome = .error e ↔
      source.PathFault before (path, item) e := by
  constructor
  · intro h
    cases item.visited found with
    | unsupported unsupported =>
      rw [addPath_of_unsupported unsupported] at h
      contradiction
    | unnamed selected unnamed =>
      rw [addPath_of_unnamed selected unnamed] at h
      cases h
      exact .unnamed selected unnamed
    | repeated selected named nonempty taken =>
      rw [addPath_of_taken selected named nonempty taken] at h
      contradiction
    | new selected named nonempty free =>
      rw [addPath_of_free selected named nonempty free, Logged.outcome_bind_pure_eq_error] at h
      obtain ⟨cycle, rfl, follows, first⟩ := operationTypes_eq_error_iff.1 h
      refine .cycle selected named nonempty (fun p hp hid => free ?_) follows first
      exact (accounts _ nonempty).2 ⟨p, hp, hid⟩
  · intro h
    cases h with
    | unnamed selected unnamed =>
      rw [addPath_of_unnamed selected unnamed]
      rfl
    | @cycle _ _ _ _ id _ selected named nonempty new follows first =>
      have free : id ∉ found.keys := by
        rw [accounts id nonempty]
        rintro ⟨p, hp, hid⟩
        exact new p hp hid
      rw [addPath_of_free selected named nonempty free, Logged.outcome_bind_pure_eq_error]
      exact operationTypes_eq_error_iff.2 ⟨_, rfl, follows, first⟩

theorem extractPaths_eq_error_iff (accounts : Accounts found before) :
    (source.extractPaths found paths).outcome = .error e ↔
      FirstFault (fun b => source.PathFault (before ++ b)) paths e := by
  induction paths generalizing found before e with
  | nil => exact iff_of_false nofun not_firstFault_nil
  | cons p paths ih =>
    obtain ⟨path, item⟩ := p
    have hshift : (fun b => source.PathFault (before ++ (path, item) :: b)) =
        fun b => source.PathFault (before ++ [(path, item)] ++ b) := by
      simp
    rw [extractPaths, firstFault_cons, List.append_nil, hshift]
    exact Logged.outcome_bind_eq_error_of_faults (fun _ => addPath_eq_error_iff accounts)
      fun next hnext _ => ih (accounts.addsPath (addPath_eq_ok_iff.1 hnext))

/-- A document fails with the failure of its first path that is at fault. -/
theorem extract_eq_error_iff :
    source.extract.outcome = .error e ↔
      FirstFault source.PathFault source.document.paths.entries e := by
  have hnone : Accounts ∅ [] := fun id _ => by simp
  rw [extract, Logged.outcome_bind_eq_error, extractPaths_eq_error_iff hnone]
  simp [Logged.note]

end Source

/-! ## chains -/

namespace Catalogue

variable {options : Options} {before chains : List (String × Document)} {c : Catalogue}
  {e : BuildError}

/-- A chain that is at fault, and the failure of the run.  Its name was given before, whatever
its document comes to; or else the name is new, and the document fails. -/
inductive ChainFault (options : Options) (before : List (String × Document)) :
    String × Document → BuildError → Prop
  | duplicate {chain : String} {document : Document} (again : chain ∈ before.map Prod.fst) :
      ChainFault options before (chain, document) (.duplicateChain chain)
  | extraction {chain : String} {document : Document} {e : ExtractionError}
      (new : chain ∉ before.map Prod.fst)
      (failed : (Source.extract ⟨chain, document, options⟩).outcome = .error e) :
      ChainFault options before (chain, document) (.extraction e)

theorem chainFault_iff_of_mem {chain : String} {document : Document}
    (again : chain ∈ before.map Prod.fst) :
    ChainFault options before (chain, document) e ↔ .duplicateChain chain = e := by
  constructor
  · rintro (_ | ⟨new, -⟩)
    · rfl
    · exact absurd again new
  · rintro rfl
    exact .duplicate again

theorem chainFault_iff_of_not_mem {chain : String} {document : Document}
    (new : chain ∉ before.map Prod.fst) :
    ChainFault options before (chain, document) e ↔
      ((Source.extract ⟨chain, document, options⟩).mapError .extraction).outcome = .error e := by
  rw [Logged.outcome_mapError_eq_error]
  constructor
  · rintro (again | ⟨-, failed⟩)
    · exact absurd again new
    · exact ⟨_, failed, rfl⟩
  · rintro ⟨e, failed, rfl⟩
    exact .extraction new failed

theorem buildFrom_eq_error_iff (before : List (String × Document)) :
    (buildFrom options (before.map Prod.fst) c chains).outcome = .error e ↔
      FirstFault (fun b => ChainFault options (before ++ b)) chains e := by
  induction chains generalizing before c e with
  | nil => exact iff_of_false nofun not_firstFault_nil
  | cons chain chains ih =>
    obtain ⟨chain, document⟩ := chain
    rw [buildFrom, firstFault_cons, List.append_nil]
    split
    · next again =>
      simp only [chainFault_iff_of_mem again, forall_eq', false_and, or_false, Logged.throw_eq,
        Except.error.injEq]
    · next new =>
      have hseen : before.map Prod.fst ++ [chain] =
          (before ++ [(chain, document)]).map Prod.fst := by
        simp
      have hshift : (fun b => ChainFault options (before ++ (chain, document) :: b)) =
          fun b => ChainFault options (before ++ [(chain, document)] ++ b) := by
        simp
      rw [hshift, hseen]
      refine Logged.outcome_bind_eq_error_of_faults
        (fun e => (chainFault_iff_of_not_mem new).symm) fun incoming _ e => ?_
      -- merging has notices, but is no failure
      rw [Logged.bind_ok]
      exact ih _

/-- A catalogue is built if and only if there are chains, with distinct names, and each of
the documents is extracted. -/
theorem build_eq_ok_iff : (∃ c, (build options chains).outcome = .ok c) ↔
    chains ≠ [] ∧ (chains.map Prod.fst).Nodup ∧
      ∀ chain ∈ chains, ∃ c, (Source.extract ⟨chain.1, chain.2, options⟩).outcome = .ok c := by
  constructor
  · rintro ⟨c, built⟩
    obtain ⟨nonempty, distinct, sources, extracted, -⟩ := exists_extracted_of_build built
    refine ⟨nonempty, distinct, fun chain hmem => ?_⟩
    obtain ⟨source, -, -, hextract⟩ := exists_of_mem_forall₂ extracted hmem
    exact ⟨source.2, hextract⟩
  · rintro ⟨nonempty, distinct, hextract⟩
    obtain ⟨sources, extracted⟩ := exists_extracted hextract
    exact ⟨_, outcome_build nonempty distinct extracted⟩

/-- A run fails for want of chains, or with the failure of the first chain that is at fault. -/
theorem build_eq_error_iff : (build options chains).outcome = .error e ↔
    chains = [] ∧ e = .noDocuments ∨ FirstFault (ChainFault options) chains e := by
  cases chains with
  | nil =>
    simp only [build_nil, Logged.throw_eq, Except.error.injEq, true_and, not_firstFault_nil,
      or_false, eq_comm]
  | cons chain chains =>
    rw [build, List.isEmpty_cons, if_neg Bool.false_ne_true]
    refine (buildFrom_eq_error_iff []).trans ?_
    simp only [List.nil_append, reduceCtorEq, false_and, false_or]

/-- **Which failure a run ends with.**  A catalogue is built if and only if there are chains,
their names are distinct, and each document is extracted.  Otherwise the run fails for want
of chains, or with the failure of the first chain that is at fault: because its name was
given before, or because its document fails.  A document fails with the failure of its first
path that is at fault: because the operation has no id, or because references are followed,
the id is new and one of the schemas meets a cycle. -/
theorem build_firstFault (options : Options) (chains : List (String × Document)) :
    ((∃ c, (build options chains).outcome = .ok c) ↔
      chains ≠ [] ∧ (chains.map Prod.fst).Nodup ∧
        ∀ chain ∈ chains, ∃ c, (Source.extract ⟨chain.1, chain.2, options⟩).outcome = .ok c) ∧
    (∀ e, (build options chains).outcome = .error e ↔
      chains = [] ∧ e = .noDocuments ∨ FirstFault (ChainFault options) chains e) ∧
    ∀ (source : Source) (e : ExtractionError), source.extract.outcome = .error e ↔
      FirstFault source.PathFault source.document.paths.entries e :=
  ⟨build_eq_ok_iff, fun _ => build_eq_error_iff, fun _ _ => Source.extract_eq_error_iff⟩

/-- A chain that is given twice counts before the operation without an id. -/
example : (build {} [("kyve", {}), ("kyve", { paths := .singleton "/bank" (barePath "" none) })]
    ).outcome = .error (.duplicateChain "kyve") := rfl

end Catalogue

end ChainApi
