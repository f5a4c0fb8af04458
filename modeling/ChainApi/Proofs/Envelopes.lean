import ChainApi.Proofs.Answers

/-!
# ChainApi.Proofs.Envelopes

What the decoded body of a successful answer comes to.  A server reports an error in a
member of the body, and the request fails with the report; but not with every report that is
there.  One that counts as nothing, such as an empty message, is passed over, and the body is
taken for a result.

* `Value.IsNothing` — the values that count as nothing;
* `Server.Gives` — the result that a body carries;
* `Request.Answers` — what a body comes to if some reports count;
* `Request.perform_answers` — which reports count, and when these are all but `null`.
-/

namespace ChainApi

/-- The values that count as nothing. -/
inductive Value.IsNothing : Value → Prop
  | null : IsNothing .null
  | falsehood : IsNothing (.bool false)
  | zero : IsNothing (.int 0)
  | realZero (negative : Bool) : IsNothing (.real (.zero negative))
  | emptyText : IsNothing (.str "")
  | noBytes : IsNothing (.bytes [])
  | emptyList : IsNothing (.list [])
  | emptyMap : IsNothing (.map [])

/-- A number without significand has the least exponent, so that there are two zeros. -/
theorem Binary64.isZero_eq_true_iff {x : Binary64} :
    x.isZero = true ↔ ∃ negative, x = zero negative := by
  cases x with
  | nan => simp [isZero, zero]
  | infinite negative => simp [isZero, zero]
  | finite negative m q canonical =>
    simp only [isZero, beq_iff_eq, zero, finite.injEq, exists_eq_left']
    refine iff_self_and.2 fun hm => ?_
    obtain ⟨-, -, -, hleast | hwide⟩ := canonical
    · exact hleast
    · subst hm
      exact absurd hwide (by decide)

theorem Value.isTruthy_eq_false_iff {v : Value} : v.isTruthy = false ↔ v.IsNothing := by
  constructor
  · intro h
    cases v with
    | null => exact .null
    | bool b => cases h; exact .falsehood
    | int i =>
      obtain rfl : i = 0 := by simpa [isTruthy] using h
      exact .zero
    | real x =>
      obtain ⟨negative, rfl⟩ := Binary64.isZero_eq_true_iff.1 (by simpa [isTruthy] using h)
      exact .realZero negative
    | str s =>
      obtain rfl : s = "" := by simpa [isTruthy] using h
      exact .emptyText
    | bytes bs =>
      obtain rfl : bs = [] := by simpa [isTruthy] using h
      exact .noBytes
    | list items =>
      obtain rfl : items = [] := by simpa [isTruthy] using h
      exact .emptyList
    | map es =>
      obtain rfl : es = [] := by simpa [isTruthy] using h
      exact .emptyMap
    | date d => cases h
    | timestamp t => cases h
    | knot n => cases h
  · intro h
    cases h <;> rfl

/-- The result that a body without an error carries: the REST server gives the body itself,
and the RPC server the result in an envelope, or the body if it is no envelope. -/
inductive Server.Gives : Server → Value → Value → Prop
  | whole {v : Value} : Gives .rest v v
  | result {es : List (Value × Value)} {v : Value} (found : (Value.map es).get? "result" = some v) :
      Gives .rpc (.map es) v
  | absent {es : List (Value × Value)} (missing : (Value.map es).get? "result" = none) :
      Gives .rpc (.map es) .null
  | bare {v : Value} (plain : ∀ es, v ≠ .map es) : Gives .rpc v v

namespace Request

variable {counts counts' : Value → Prop} {server : Server} {body : Value}
  {outcome outcome' : Except RequestError Value} {network : Network} {request : Request}

/-- What a body comes to if some of the reports of an error count. -/
inductive Answers (counts : Value → Prop) (server : Server) (body : Value) :
    Except RequestError Value → Prop
  | error {report : Value} (found : body.get? (reportMember server) = some report)
      (counted : counts report) : Answers counts server body (.error (.reported server report))
  | result {v : Value}
      (silent : ∀ report, body.get? (reportMember server) = some report → ¬ counts report)
      (given : server.Gives body v) : Answers counts server body (.ok v)

/-- Only the report that is there needs to be looked at. -/
theorem Answers.congr (h : Answers counts server body outcome)
    (same : ∀ report, body.get? (reportMember server) = some report →
      (counts report ↔ counts' report)) : Answers counts' server body outcome := by
  cases h with
  | error found counted => exact .error found ((same _ found).1 counted)
  | result silent given =>
    exact .result (fun report found => mt (same report found).2 (silent report found)) given

/-- A body comes to an error exactly if it has a report that counts. -/
theorem Answers.isError_iff (h : Answers counts server body outcome) :
    (∃ e, outcome = .error e) ↔
      ∃ report, body.get? (reportMember server) = some report ∧ counts report := by
  cases h with
  | error found counted => exact iff_of_true ⟨_, rfl⟩ ⟨_, found, counted⟩
  | result silent given =>
    refine iff_of_false nofun ?_
    rintro ⟨report, found, counted⟩
    exact silent report found counted

theorem gives_result (server : Server) (body : Value) :
    server.Gives body (interpret.result server body) := by
  cases server with
  | rest => exact .whole
  | rpc =>
    cases body with
    | map es =>
      cases hresult : (Value.map es).get? "result" with
      | none =>
        rw [interpret.result, hresult]
        exact .absent hresult
      | some v =>
        rw [interpret.result, hresult]
        exact .result hresult
    | _ => exact .bare nofun

/-- All reports count but those that are nothing. -/
theorem interpret_answers (server : Server) (body : Value) :
    Answers (fun report => ¬ report.IsNothing) server body (interpret server body) := by
  unfold interpret
  split
  · next report found =>
    by_cases htruthy : report.isTruthy = true
    · rw [if_pos htruthy]
      refine .error found fun hnothing => ?_
      rw [Value.isTruthy_eq_false_iff.2 hnothing] at htruthy
      cases htruthy
    · rw [if_neg htruthy]
      refine .result (fun report' found' hcounts => ?_) (gives_result server body)
      cases found.symm.trans found'
      exact hcounts (Value.isTruthy_eq_false_iff.1 (by simpa using htruthy))
  · next missing =>
    exact .result (fun report found => by rw [missing] at found; cases found)
      (gives_result server body)

/-- A request comes to what the body says that is decoded. -/
theorem outcome_perform (h : network.RefusesInvalid)
    (decoded : request.Decodes network (.ok body)) :
    (request.perform network).outcome = interpret request.server body := by
  have hpayload : (request.payload network).outcome =
      (pure body : Logged RequestError Value).outcome := (payload_eq_ok_iff h).2 decoded
  rw [perform, Logged.outcome_bind_congr hpayload fun _ => rfl]
  rfl

/-- **Error envelopes.**  Take a network that refuses what is no address, and a successful
answer to a request whose body is decoded.  The request fails exactly if the body is a mapping
with a report that is not nothing, and it fails with this report; otherwise it has the result
that the body carries.  So every report but `null` fails the request exactly if the body has
none that is nothing but not `null`, such as an empty text, zero, or an empty mapping. -/
theorem perform_answers (h : network.RefusesInvalid)
    (decoded : request.Decodes network (.ok body)) :
    Answers (fun report => ¬ report.IsNothing) request.server body
      (request.perform network).outcome ∧
    (Answers (fun report => report ≠ .null) request.server body
        (request.perform network).outcome ↔
      ∀ report, body.get? (reportMember request.server) = some report → report.IsNothing →
        report = .null) := by
  rw [outcome_perform h decoded]
  have hanswers := interpret_answers request.server body
  refine ⟨hanswers, fun hdocumented report found hnothing => ?_, fun honly => ?_⟩
  · -- of the two readings only one has the request fail
    by_contra hpresent
    obtain ⟨report', found', hcounts⟩ :=
      hanswers.isError_iff.1 (hdocumented.isError_iff.2 ⟨report, found, hpresent⟩)
    cases found.symm.trans found'
    exact hcounts hnothing
  · refine hanswers.congr fun report found => not_congr ⟨honly report found, ?_⟩
    rintro rfl
    exact .null

/-- The request for a proposal. -/
def proposalRequest : Request := below Route.kyve .rest "/cosmos/gov/v1beta1/proposals/999" ""

/-- The answer of a server that reports an error in words. -/
def refusal (message : String) : String :=
  "\x7b\"code\": 5, \"message\": \"" ++ message ++ "\", \"details\": []\x7d"

/-- What this answer is decoded to. -/
def refusalBody (message : String) : Value :=
  .map [(.str "code", .int 5), (.str "message", .str message), (.str "details", .list [])]

/-- The network on which every address answers so. -/
def refusing (message : String) : Network :=
  answering (.response 200 (refusal message).toUTF8.toList)

theorem decodes_proposalRequest {message : String} {body : Value}
    (decoded : Json.decode (refusal message).toUTF8.toList = .ok body) :
    proposalRequest.Decodes (refusing message) (.ok body) := by
  have hvalid : Url.isValid proposalRequest.url = true := by decide +kernel
  have hreply : refusing message proposalRequest.url =
      .response 200 (refusal message).toUTF8.toList := by
    rw [refusing, answering, if_pos hvalid]
  exact ⟨200, _, hreply, rfl, decoded⟩

/-- A message in words fails the request. -/
theorem perform_answers_proposalMissing :
    (refusing "proposal 999 doesn't exist").RefusesInvalid ∧
    proposalRequest.Decodes (refusing "proposal 999 doesn't exist")
      (.ok (refusalBody "proposal 999 doesn't exist")) ∧
    ∃ e, (proposalRequest.perform (refusing "proposal 999 doesn't exist")).outcome = .error e := by
  have hnetwork : (refusing "proposal 999 doesn't exist").RefusesInvalid :=
    refusesInvalid_answering rfl
  have hdecoded : proposalRequest.Decodes (refusing "proposal 999 doesn't exist")
      (.ok (refusalBody "proposal 999 doesn't exist")) :=
    decodes_proposalRequest (by decide +kernel)
  have hpresent : ¬ (Value.str "proposal 999 doesn't exist").IsNothing := by
    rw [← Value.isTruthy_eq_false_iff]
    decide
  exact ⟨hnetwork, hdecoded, (perform_answers hnetwork hdecoded).1.isError_iff.2
    ⟨_, rfl, hpresent⟩⟩

/-- An empty message is none: the body with the error is taken for the result. -/
theorem perform_emptyMessage :
    (refusing "").RefusesInvalid ∧
    proposalRequest.Decodes (refusing "") (.ok (refusalBody "")) ∧
    (refusalBody "").get? (reportMember .rest) = some (.str "") ∧ Value.str "" ≠ .null ∧
    (proposalRequest.perform (refusing "")).outcome = .ok (refusalBody "") := by
  have hnetwork : (refusing "").RefusesInvalid := refusesInvalid_answering rfl
  have hdecoded : proposalRequest.Decodes (refusing "") (.ok (refusalBody "")) :=
    decodes_proposalRequest (by decide +kernel)
  exact ⟨hnetwork, hdecoded, rfl, nofun, outcome_perform hnetwork hdecoded⟩

end Request

end ChainApi
