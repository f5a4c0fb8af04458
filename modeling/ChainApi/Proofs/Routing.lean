import ChainApi.Proofs.Accounting
import ChainApi.Proofs.Choices

/-!
# ChainApi.Proofs.Routing

Where the parameters of an operation go.  Each one that is declared becomes a line of one of
the three types, or is left out with a notice; which of the two, and which line or notice, is
told by the parameter alone, or by the shared one that it refers to.  The types are made of
the lines in the order of the parameters, and the notices are given in that order too, but
first those on shared parameters that are not there.

* `Source.Becomes` — what a single parameter comes to;
* `Lists` — a type with given lines;
* `Source.becomes_of_property`, `Source.becomes_of_properties` — one parameter, and a list;
* `Source.operationTypes_routes` — the types and the notices of an operation.
-/

namespace ChainApi

/-! ## fates -/

/-- What a declared parameter comes to. -/
inductive Fate where
  /-- It is a line of one of the types. -/
  | line (place : ParameterSection) (property : Property)
  /-- It is left out, and a notice says why. -/
  | omitted (notice : Notice)

namespace Fate

/-- The line that a parameter has in a type. -/
def entry : Fate → Option (ParameterSection × Property)
  | line place property => some (place, property)
  | omitted _ => none

/-- The notice about a parameter. -/
def notice : Fate → Option Notice
  | line _ _ => none
  | omitted n => some n

/-- The lines in one of the types, in order. -/
def linesIn (place : ParameterSection) (fates : List Fate) : List Property :=
  sectionOf place (fates.filterMap entry)

/-- Each parameter has a line in one of the types or a notice. -/
theorem length_eq (fates : List Fate) :
    fates.length = (linesIn .path fates).length + (linesIn .query fates).length +
      (linesIn .body fates).length + (fates.filterMap notice).length := by
  induction fates with
  | nil => rfl
  | cons fate fates ih =>
    simp only [linesIn, sectionOf, List.length_map] at ih ⊢
    rw [List.length_cons, ih]
    cases fate with
    | omitted n => simp [List.filterMap_cons, entry, notice, Nat.add_assoc]
    | line place property => cases place <;> simp [List.filterMap_cons, entry, notice] <;> omega

end Fate

/-- What a parameter of an operation comes to.  A reference to a shared parameter stands for
this, and one to a parameter that is not there is left out, like a parameter without a name or
in an unknown place. -/
inductive Source.Becomes (source : Source) (path : String) : Parameter → Fate → Prop
  | dangling {p : Parameter} {pointer : String} (shared : p.ref = some pointer)
      (missing : source.document.parameters.get? (referenceName pointer) = none) :
      Becomes source path p (.omitted (.parameterDangling pointer path source.chain))
  | unnamed {p q : Parameter} (found : source.document.resolveParameter p = some q)
      (unnamed : q.name = none) : Becomes source path p (.omitted (.parameterUnnamed q.location))
  | path {p q : Parameter} {name : String}
      (found : source.document.resolveParameter p = some q) (named : q.name = some name)
      (located : q.location = some "path") :
      Becomes source path p (.line .path ⟨q.description, displayName name, q.primitiveType⟩)
  | query {p q : Parameter} {name : String}
      (found : source.document.resolveParameter p = some q) (named : q.name = some name)
      (located : q.location = some "query") :
      Becomes source path p (.line .query ⟨q.description, displayName name, q.primitiveType⟩)
  | body {p q : Parameter} {name : String} {type : Annotated}
      (found : source.document.resolveParameter p = some q) (named : q.name = some name)
      (located : q.location = some "body")
      (typed : (Schema.annotate source.document.definitions source.options.resolveRefs
        q.schema).outcome = .ok type) :
      Becomes source path p
        (.line source.options.bodyParams.place ⟨q.description, quoted name, type.text⟩)
  | misplaced {p q : Parameter} {name : String}
      (found : source.document.resolveParameter p = some q) (named : q.name = some name)
      (elsewhere : q.location ∉ [some "path", some "query", some "body"]) :
      Becomes source path p (.omitted (.parameterMisplaced name q.location))

/-- A type with given lines: it is undefined exactly if there are none, and otherwise has each
of them on its own, in braces. -/
structure Lists (type : String) (lines : List Property) : Prop where
  undefined : type = undefinedType ↔ lines = []
  object : lines ≠ [] →
    type = "\x7b\n" ++ String.join (lines.map fun p => p.text ++ "\n") ++ "\x7d"

theorem lists_objectType (lines : List Property) : Lists (objectType lines) lines := by
  cases lines with
  | nil => exact ⟨iff_of_true rfl rfl, nofun⟩
  | cons p lines =>
    refine ⟨iff_of_false (fun h => ?_) (List.cons_ne_nil _ _), fun _ => rfl⟩
    have hfirst := congrArg (fun s => s.toList.head?) h
    simp [objectType, undefinedType] at hfirst

/-- The types of the parameters in a record. -/
def OperationTypes.typesIn (r : OperationTypes) : ParameterSection → Table String
  | .path => r.path
  | .query => r.query
  | .body => r.body

namespace Notice

/-- Does a notice say that a parameter is left out? -/
def isOmission : Notice → Bool
  | parameterDangling .. | parameterUnnamed .. | parameterMisplaced .. => true
  | _ => false

/-- Does a notice say that a shared parameter is not there? -/
def isDangling : Notice → Bool
  | parameterDangling .. => true
  | _ => false

end Notice

/-- A computation without notices of some kind. -/
theorem Logged.Reports.filter_eq_nil {x : Logged ε α} {p : Notice → Bool}
    (h : x.Reports fun n => p n = false) : x.log.filter p = [] := by
  rw [List.filter_eq_nil_iff]
  intro n hn
  rw [h n hn]
  exact Bool.false_ne_true

namespace Source

variable {source : Source} {path : String} {method : Method} {op : Operation}
  {r : OperationTypes} {p q : Parameter} {fate fate' : Fate} {fates : List Fate}

/-! ## one parameter -/

/-- A parameter comes to one thing only. -/
theorem Becomes.unique (h : source.Becomes path p fate) (h' : source.Becomes path p fate') :
    fate = fate' := by
  cases h <;> cases h' <;> simp_all [Document.resolveParameter]

theorem Becomes.notice_isOmission (h : source.Becomes path p fate) :
    ∀ n ∈ fate.notice, n.isOmission = true ∧ n.severity = .warning := by
  cases h <;> simp [Fate.notice, Notice.isOmission, Notice.severity]

/-- A parameter that is there becomes a line, or is left out with a notice. -/
theorem becomes_of_property (path : String) {x : Option (ParameterSection × Property)}
    (found : source.document.resolveParameter p = some q)
    (h : (q.property source.document.definitions source.options).outcome = .ok x) :
    ∃ fate, source.Becomes path p fate ∧ fate.entry = x ∧
      (q.property source.document.definitions source.options).log.filter Notice.isOmission =
        fate.notice.toList ∧
      ∀ n ∈ fate.notice, n.isDangling = false := by
  cases q.placed with
  | unnamed hname =>
    rw [Parameter.property_of_unnamed hname] at h ⊢
    cases h
    exact ⟨_, .unnamed found hname, rfl, rfl, by simp [Fate.notice, Notice.isDangling]⟩
  | path hname hpath =>
    rw [Parameter.property_of_path hname hpath] at h ⊢
    cases h
    exact ⟨_, .path found hname hpath, rfl, rfl, nofun⟩
  | query hname hquery =>
    rw [Parameter.property_of_query hname hquery] at h ⊢
    cases h
    exact ⟨_, .query found hname hquery, rfl, rfl, nofun⟩
  | body hname hbody =>
    rw [Parameter.property_of_body hname hbody] at h ⊢
    obtain ⟨type, typed, h⟩ := Logged.outcome_bind_eq_ok.1 h
    cases h
    refine ⟨_, .body found hname hbody typed, rfl, ?_, nofun⟩
    rw [Logged.log_bind_of_ok typed, List.filter_append,
      (Schema.annotate_reports (fun _ => rfl) q.schema).filter_eq_nil]
    rfl
  | misplaced hname helsewhere =>
    rw [Parameter.property_of_misplaced hname helsewhere] at h ⊢
    cases h
    exact ⟨_, .misplaced found hname helsewhere, rfl, rfl,
      by simp [Fate.notice, Notice.isDangling]⟩

/-! ## all parameters -/

theorem exists_ref_of_resolveParameter_eq_none (h : source.document.resolveParameter p = none) :
    ∃ pointer, p.ref = some pointer ∧
      source.document.parameters.get? (referenceName pointer) = none := by
  rw [Document.resolveParameter] at h
  cases href : p.ref with
  | none =>
    rw [href] at h
    contradiction
  | some pointer =>
    rw [href] at h
    exact ⟨pointer, rfl, h⟩

/-- The parameters of a list become lines, or are left out with a notice. -/
theorem becomes_of_properties (path : String) {ps : List Parameter}
    {xs : List (ParameterSection × Property)}
    (h : (properties source.document.definitions source.options
      (ps.filterMap source.document.resolveParameter)).outcome = .ok xs) :
    ∃ fates, List.Forall₂ (source.Becomes path) ps fates ∧ fates.filterMap Fate.entry = xs ∧
      ps.filterMap (source.danglingNotice path) =
        (fates.filterMap Fate.notice).filter Notice.isDangling ∧
      (properties source.document.definitions source.options
        (ps.filterMap source.document.resolveParameter)).log.filter Notice.isOmission =
        (fates.filterMap Fate.notice).filter fun n => !n.isDangling := by
  -- the two kinds of notices are kept apart, since all references are looked up beforehand
  induction ps generalizing xs with
  | nil =>
    cases h
    exact ⟨[], .nil, rfl, rfl, rfl⟩
  | cons p ps ih =>
    cases found : source.document.resolveParameter p with
    | none =>
      rw [List.filterMap_cons_none found] at h ⊢
      obtain ⟨fates, hfates, hentries, hdangling, hlog⟩ := ih h
      obtain ⟨pointer, shared, missing⟩ := exists_ref_of_resolveParameter_eq_none found
      have hnotice : source.danglingNotice path p =
          some (.parameterDangling pointer path source.chain) := by
        simp [danglingNotice, found, shared, Notice.shown]
      refine ⟨_ :: fates, .cons (.dangling shared missing) hfates, hentries, ?_, hlog⟩
      rw [List.filterMap_cons_some hnotice, hdangling]
      rfl
    | some q =>
      rw [List.filterMap_cons_some found, properties] at h ⊢
      obtain ⟨first, hfirst, h⟩ := Logged.outcome_bind_eq_ok.1 h
      obtain ⟨rest, hrest, h⟩ := Logged.outcome_bind_eq_ok.1 h
      cases h
      obtain ⟨fate, hfate, hentry, hnotice, hothers⟩ := becomes_of_property path found hfirst
      obtain ⟨fates, hfates, hentries, hdangling, hlog⟩ := ih hrest
      have hnone : source.danglingNotice path p = none := by simp [danglingNotice, found]
      refine ⟨fate :: fates, .cons hfate hfates, ?_, ?_, ?_⟩
      · rw [← hentries, ← hentry, List.filterMap_cons]
        cases fate.entry <;> rfl
      · rw [List.filterMap_cons_none hnone, hdangling, List.filterMap_cons]
        cases hn : fate.notice with
        | none => rfl
        | some n => rw [List.filter_cons_of_neg (by simp [hothers n hn])]
      · rw [Logged.log_bind_of_ok hfirst, Logged.log_bind_of_ok hrest, List.filter_append,
          List.filter_append, hnotice, hlog, List.filterMap_cons]
        cases hn : fate.notice with
        | none => simp
        | some n => simp [hothers n hn]

/-! ## one operation -/

/-- The parameters that are left out are reported when the shared ones are looked up and when
the others become lines, but by no response. -/
theorem filter_log_operationTypes (h : (source.operationTypes path method op).outcome = .ok r) :
    (source.operationTypes path method op).log.filter Notice.isOmission =
      ((op.parameters.getD []).filterMap (source.danglingNotice path)).filter Notice.isOmission ++
        (properties source.document.definitions source.options
          (source.listedParameters op)).log.filter Notice.isOmission := by
  rw [operationTypes, operationParameters_eq, Logged.bind_ok] at h ⊢
  obtain ⟨types, htypes, h⟩ := Logged.outcome_bind_eq_ok.1 h
  obtain ⟨success, hsuccess, h⟩ := Logged.outcome_bind_eq_ok.1 h
  obtain ⟨error, herror, -⟩ := Logged.outcome_bind_eq_ok.1 h
  have hresponse := fun status => (responseType_reports (fun _ => rfl) source op
    status : (source.responseType op status).Reports fun n => n.isOmission = false)
  obtain ⟨xs, hxs, -⟩ := Logged.outcome_bind_eq_ok.1 (Logged.outcome_mapError_eq_ok.1 htypes)
  rw [Logged.log_bind_of_ok htypes, Logged.log_bind_of_ok hsuccess, Logged.log_bind_of_ok herror]
  have hlog : ((parameterTypes source.document.definitions source.options
      (source.listedParameters op)).mapError ExtractionError.cycle).log =
      (properties source.document.definitions source.options
        (source.listedParameters op)).log := by
    show (parameterTypes _ _ _).log = _
    rw [parameterTypes, Logged.log_bind_of_ok hxs, Logged.pure_eq, List.append_nil]
  simp [hlog, (hresponse _).filter_eq_nil]

/-- **No parameter is lost silently.**  Each declared parameter of an operation comes to exactly
one thing, a line in one of the three types or a notice that it is left out, whatever the
document and the options are.  The types list the lines in the order of the parameters and
nothing else, and are undefined without any; and the notices on parameters that are left out,
which are warnings, are those of the parameters, in order but with those on missing shared
parameters first.  So there are as many parameters as lines and notices. -/
theorem operationTypes_routes (h : (source.operationTypes path method op).outcome = .ok r) :
    (∀ p f g, source.Becomes path p f → source.Becomes path p g → f = g) ∧
    ∃ fates, List.Forall₂ (source.Becomes path) (op.parameters.getD []) fates ∧
      (∀ place, ∃ type, r.typesIn place = .singleton source.chain type ∧
        Lists type (Fate.linesIn place fates)) ∧
      (source.operationTypes path method op).log.filter Notice.isOmission =
        (fates.filterMap Fate.notice).filter Notice.isDangling ++
          (fates.filterMap Fate.notice).filter (fun n => !n.isDangling) ∧
      (∀ n ∈ fates.filterMap Fate.notice, n.isOmission = true ∧ n.severity = .warning) ∧
      (op.parameters.getD []).length = (Fate.linesIn .path fates).length +
        (Fate.linesIn .query fates).length + (Fate.linesIn .body fates).length +
        (source.operationTypes path method op).log.countP Notice.isOmission := by
  refine ⟨fun p f g hf hg => hf.unique hg, ?_⟩
  obtain ⟨types, success, error, htypes, -, -, rfl⟩ := operationTypes_eq_ok_iff.1 h
  obtain ⟨xs, hxs, htypes⟩ := Logged.outcome_bind_eq_ok.1 htypes
  cases htypes
  obtain ⟨fates, hfates, rfl, hdangling, hothers⟩ := becomes_of_properties path hxs
  have hwarnings : ∀ n ∈ fates.filterMap Fate.notice,
      n.isOmission = true ∧ n.severity = .warning := by
    intro n hn
    obtain ⟨fate, hfate, hnotice⟩ := List.mem_filterMap.1 hn
    obtain ⟨p, -, hp⟩ := Catalogue.exists_of_mem_forall₂ hfates.flip hfate
    exact hp.notice_isOmission n hnotice
  have hlog := filter_log_operationTypes h
  rw [listedParameters, hothers, hdangling, List.filter_eq_self.2 fun n hn =>
    (hwarnings n (List.mem_of_mem_filter hn)).1] at hlog
  refine ⟨fates, hfates, fun place => ?_, hlog, hwarnings, ?_⟩
  · cases place <;> exact ⟨_, rfl, lists_objectType _⟩
  · rw [List.countP_eq_length_filter, hlog, List.length_append,
      ← List.length_eq_length_filter_add, hfates.length_eq, Fate.length_eq]

/-- Three parameters that become lines, of which one is a body among the query parameters and
one is shared, and three that are left out. -/
def ballot : Operation where
  operationId := some "Vote"
  parameters := some [{ name := some "tx", location := some "body" },
    { ref := some "#/parameters/Memo" }, { location := some "query" },
    { name := some "voter", location := some "path", description := some "the voter" },
    { name := some "token", location := some "header" }, { ref := some "#/parameters/Height" }]

/-- A document with one shared parameter. -/
def ballotSource : Source where
  chain := "kyve"
  document :=
    { parameters := .singleton "Height"
        { name := some "height", location := some "query", format := some "int64" } }

theorem operationTypes_routes_ballot :
    ∃ r, (ballotSource.operationTypes "/votes" .post ballot).outcome = .ok r ∧
      r.path = .singleton "kyve" "\x7b\n/** the voter */\nvoter: string\n\x7d" ∧
      r.query = .singleton "kyve" "\x7b\n'tx': unknown\nheight: number\n\x7d" ∧
      r.body = .singleton "kyve" undefinedType ∧
      (ballotSource.operationTypes "/votes" .post ballot).log.countP Notice.isOmission = 3 ∧
      ∃ fates, List.Forall₂ (ballotSource.Becomes "/votes") (ballot.parameters.getD []) fates ∧
        (Fate.linesIn .path fates).length + (Fate.linesIn .query fates).length +
          (Fate.linesIn .body fates).length = 3 := by
  obtain ⟨-, fates, hfates, -, -, -, hcount⟩ :=
    operationTypes_routes (show (ballotSource.operationTypes "/votes" .post ballot).outcome =
      .ok _ from rfl)
  have hnotices :
      (ballotSource.operationTypes "/votes" .post ballot).log.countP Notice.isOmission = 3 := by
    decide
  have hlength : (ballot.parameters.getD []).length = 6 := rfl
  exact ⟨_, rfl, by decide, by decide, by decide, hnotices, fates, hfates, by omega⟩

end Source

end ChainApi
