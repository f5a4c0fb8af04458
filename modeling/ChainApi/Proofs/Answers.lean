import ChainApi.Proofs.PathArguments

/-!
# ChainApi.Proofs.Answers

What failed exchanges come to.  Whether the program has words of its own for a failure
depends on three things only: whether the query can be written, whether the address is one,
and whether a body can be decoded at all.  The address of a request below a known server is
one unless a control character or half of a surrogate pair stands in its endpoint or it is
too long; what stands in the query does not matter.

* `Url.isValid_append` — addresses that go on;
* `Exchange.fetch_eq_error_iff`, `Request.perform_eq_error_iff` — what each failure tells;
* `Request.get_of_build_eq_ok`, `Request.get_of_build_eq_error` — a request that is yet to be
  written;
* `Request.isValid_below` — the addresses below a known server;
* `failures_own_iff` — when all failures are the program's own.
-/

namespace ChainApi

/-! ## addresses that go on -/

namespace Url

variable {base rest : String} {cs ys scheme : List Char}

/-- What stands in front of the path stays as it is when an address goes on behind it. -/
theorem ofChars_append_authority (host : (ofChars cs).host ≠ []) (hquery : '?' ∉ cs)
    (hfragment : '#' ∉ cs) (hys : ∀ c ∈ ys.head?, isAuthorityChar c = false) :
    ∃ path, ofChars (cs ++ ys) = { ofChars cs with path } := by
  obtain ⟨scheme, rest, hcs⟩ := exists_authority host
  have hlong : splitScheme (cs ++ ys) = (scheme, '/' :: '/' :: (rest ++ ys)) :=
    splitScheme_append hcs ys
  have hback : rest <:+ cs :=
    ((List.suffix_cons _ _).trans (List.suffix_cons _ _)).trans (splitScheme_suffix hcs)
  have hauthority : (rest ++ ys).takeWhile isAuthorityChar = rest.takeWhile isAuthorityChar :=
    takeWhile_append_of_head hys rest
  have hsplit : ofChars (cs ++ ys) = Url.withAuthority
      { scheme
        path := ((rest ++ ys).drop ((rest ++ ys).takeWhile isAuthorityChar).length).takeWhile
          fun c => c != '?' && c != '#' }
      ((rest ++ ys).takeWhile isAuthorityChar) := by
    rw [ofChars, hlong]
    rfl
  rw [hsplit, hauthority, ofChars_of_authority hcs (fun h => hquery (hback.subset h))
    fun h => hfragment (hback.subset h)]
  exact ⟨_, rfl⟩

/-- A valid address with a host stays valid when it goes on, unless it gets too long or a
control character is added. -/
theorem areValid_append (host : (ofChars cs).host ≠ []) (hquery : '?' ∉ cs) (hfragment : '#' ∉ cs)
    (hvalid : areValid cs = true) (hys : ∀ c ∈ ys.head?, isAuthorityChar c = false) :
    areValid (cs ++ ys) = true ↔
      (∀ c ∈ ys, isControl c = false) ∧ (cs ++ ys).length ≤ maxLength := by
  obtain ⟨path, hpath⟩ := ofChars_append_authority host hquery hfragment hys
  have hhost : (ofChars cs).host.isEmpty = false := by simpa using host
  have hallowed (path : List Char) : isPathAllowed { ofChars cs with path } = true := by
    simp [isPathAllowed, hhost]
  simp only [areValid, Bool.and_eq_true, decide_eq_true_eq, Bool.not_eq_true'] at hvalid
  obtain ⟨⟨⟨⟨-, hcontrol⟩, hname⟩, hport⟩, -⟩ := hvalid
  simp only [areValid, hpath, hname, hport, hallowed, List.any_append, hcontrol,
    Bool.false_or, Bool.and_true, Bool.and_eq_true, decide_eq_true_eq, Bool.not_eq_true',
    List.any_eq_false, Bool.not_eq_true]
  exact and_comm

/-- An address goes on with a character that ends the authority, or not at all. -/
theorem isAfterMark_of_head? (h : ∀ c ∈ ys.head?, isAuthorityChar c = false) :
    ∀ c ∈ ys.head?, Text.isAfterMark c = false := by
  intro c hc
  have hend := h c hc
  simp only [isAuthorityChar, Bool.and_eq_false_iff, bne_eq_false_iff_eq] at hend
  rcases hend with (rfl | rfl) | rfl <;> rfl

/-- The same for texts, in which halves of surrogate pairs may be added too. -/
theorem isValid_append (hplain : Text.mark ∉ base.toList) (hbase : IsBase base)
    (hvalid : isValid base = true) (hrest : ∀ c ∈ rest.toList.head?, isAuthorityChar c = false) :
    isValid (base ++ rest) = true ↔
      (∀ p ∈ Text.pointsOf rest, ∃ c, p = .char c ∧ isControl c = false) ∧
        (Text.pointsOf (base ++ rest)).length ≤ maxLength := by
  have hpoints : Text.pointsOf (base ++ rest) = base.toList.map .char ++ Text.pointsOf rest := by
    rw [Text.pointsOf_append (isAfterMark_of_head? hrest), Text.pointsOf_of_not_mem hplain]
  rw [isValid_of_chars? (Text.chars?_of_not_mem hplain)] at hvalid
  cases hchars : Text.chars? rest with
  | none =>
    obtain ⟨k, hk⟩ := Text.hasHalf_eq_true_iff.1 (by rw [Text.hasHalf, hchars]; rfl)
    have hhalf : Text.hasHalf (base ++ rest) = true :=
      Text.hasHalf_eq_true_iff.2 ⟨k, hpoints ▸ List.mem_append_right _ hk⟩
    rw [isValid_of_hasHalf hhalf]
    refine iff_of_false Bool.false_ne_true fun h => ?_
    obtain ⟨c, hc, -⟩ := h.1 _ hk
    cases hc
  | some ys =>
    have hrestPoints := Text.chars?_eq_some_iff.1 hchars
    have hmark : ∀ c ∈ rest.toList.head?, c ≠ Text.mark := by
      rintro c hc rfl
      cases hrest _ hc
    have hys : ∀ c ∈ ys.head?, isAuthorityChar c = false := by
      rwa [Text.head?_of_chars? hchars hmark]
    rw [hrestPoints, ← List.map_append] at hpoints
    rw [isValid_of_chars? (Text.chars?_eq_some_iff.2 hpoints),
      areValid_append hbase.2.2 hbase.1 hbase.2.1 hvalid hys, hpoints, hrestPoints,
      List.length_map]
    simp

end Url

/-- Does a network refuse what is no address, and nothing else? -/
def Network.RefusesInvalid (network : Network) : Prop :=
  ∀ url, (network url).isRefusal = true ↔ Url.isValid url = false

variable {network : Network} {url text endpoint query : String} {request : Request}
  {chain : Chain} {server : Server} {params : List (Value × Value)}

/-- What is an address is not refused in either way. -/
theorem Network.RefusesInvalid.isValid_iff (h : network.RefusesInvalid) (url : String) :
    Url.isValid url = true ↔ network url ≠ .invalidUrl ∧ network url ≠ .notEncodable := by
  have hrefusal : (network url).isRefusal = true ↔
      network url = .invalidUrl ∨ network url = .notEncodable := by
    cases network url <;> simp [Reply.isRefusal]
  rw [← not_or, ← hrefusal, h url, Bool.not_eq_false]

theorem Exchange.send_of_refusesInvalid (h : network.RefusesInvalid) (url : String) :
    send network url = network url := by
  unfold send
  split
  · next status body hreply =>
    have hvalid : Url.isValid url = true := (h.isValid_iff url).2 (by simp [hreply])
    rw [if_pos hvalid, hreply]
  · rfl

/-! ## documents -/

/-- What has happened if there is this failure at an address. -/
def FetchError.Tells (network : Network) (url : String) : FetchError → Prop
  | failed url' reason =>
    url = url' ∧ (network url = .unreachable reason ∨
      ∃ status body, network url = .response status body ∧
        Exchange.isSuccess status = false ∧ Exchange.statusText url status = reason)
  | invalidUrl => network url = .invalidUrl
  | notEncodable => network url = .notEncodable

/-- Has the program words for the failure? -/
def FetchError.IsOwn (e : FetchError) : Prop := ∃ url reason, e = failed url reason

namespace Exchange

theorem fetch_eq_ok_iff (h : network.RefusesInvalid) :
    fetch network url = .ok text ↔ ∃ status body, network url = .response status body ∧
      isSuccess status = true ∧ Text.ofChars (Text.Utf8.decodeLossy body).toList = text := by
  rw [fetch, send_of_refusesInvalid h]
  cases network url with
  | response status body => cases hstatus : isSuccess status <;> simp [hstatus]
  | _ => simp

theorem fetch_eq_error_iff (h : network.RefusesInvalid) {e : FetchError} :
    fetch network url = .error e ↔ e.Tells network url := by
  rw [fetch, send_of_refusesInvalid h]
  cases hreply : network url with
  | response status body =>
    cases hstatus : isSuccess status <;> cases e <;> simp_all [FetchError.Tells]
  | unreachable reason => cases e <;> simp_all [FetchError.Tells]
  | invalidUrl => cases e <;> simp_all [FetchError.Tells]
  | notEncodable => cases e <;> simp_all [FetchError.Tells]

end Exchange

/-! ## answers in JSON -/

/-- Is this what the body of a successful answer is decoded to? -/
def Request.Decodes (network : Network) (r : Request) (decoded : Except Json.Failure Value) :
    Prop :=
  ∃ status body, network r.url = .response status body ∧
    Exchange.isSuccess status = true ∧ Json.decode body = decoded

/-- What has happened if a request has this failure. -/
def RequestError.Tells (network : Network) (r : Request) : RequestError → Prop
  | unreachable server url reason =>
    r.server = server ∧ r.url = url ∧ network r.url = .unreachable reason
  | refused server status =>
    r.server = server ∧ ∃ body, network r.url = .response status body ∧
      Exchange.isSuccess status = false
  | notJson server url => r.server = server ∧ r.url = url ∧ r.Decodes network (.error .malformed)
  | reported server report =>
    r.server = server ∧ ∃ body, r.Decodes network (.ok body) ∧
      body.get? (Request.reportMember server) = some report ∧ report.isTruthy = true
  | tooDeep => r.Decodes network (.error .tooDeep)
  | invalidUrl => network r.url = .invalidUrl
  | notEncodable => network r.url = .notEncodable
  | longInteger => False

/-- Has the program words for the failure, as one of this server? -/
def RequestError.IsOwn (e : RequestError) (server : Server) : Prop := e.server? = some server

namespace Request

theorem payload_eq_ok_iff (h : network.RefusesInvalid) {v : Value} :
    (request.payload network).outcome = .ok v ↔ request.Decodes network (.ok v) := by
  rw [payload, Exchange.send_of_refusesInvalid h]
  cases hreply : network request.url with
  | response status body =>
    cases hstatus : Exchange.isSuccess status with
    | false => simp [Decodes, hreply, hstatus, Logged.note]
    | true =>
      rcases hdecode : Json.decode body with ⟨⟨⟩⟩ | v <;> simp [Decodes, hreply, hstatus, hdecode]
  | _ => simp [Decodes, hreply]

/-- There is no body to read if the server was not reached or has refused, or if the body
cannot be decoded. -/
theorem payload_eq_error_iff (h : network.RefusesInvalid) {e : RequestError} :
    (request.payload network).outcome = .error e ↔
      e.Tells network request ∧ ∀ server report, e ≠ .reported server report := by
  rw [payload, Exchange.send_of_refusesInvalid h]
  cases hreply : network request.url with
  | response status body =>
    cases hstatus : Exchange.isSuccess status with
    | false =>
      cases e <;> simp_all [RequestError.Tells, Decodes, Logged.note]
      grind
    | true =>
      rcases hdecode : Json.decode body with ⟨⟨⟩⟩ | v <;>
        cases e <;> simp_all [RequestError.Tells, Decodes] <;> grind
  | _ => cases e <;> simp_all [RequestError.Tells, Decodes]

theorem interpret_eq_error_iff {server : Server} {body : Value} {e : RequestError} :
    interpret server body = .error e ↔ ∃ report, .reported server report = e ∧
      body.get? (reportMember server) = some report ∧ report.isTruthy = true := by
  unfold interpret
  split
  · next report hreport =>
    cases htruthy : report.isTruthy <;> simp [hreport, htruthy]
  · next hnone => simp [hnone]

/-- What each failure of a request tells. -/
theorem perform_eq_error_iff (h : network.RefusesInvalid) {e : RequestError} :
    (request.perform network).outcome = .error e ↔ e.Tells network request := by
  rw [perform, Logged.outcome_bind_eq_error, payload_eq_error_iff h]
  simp only [payload_eq_ok_iff h, Logged.ofExcept, interpret_eq_error_iff]
  cases e <;> simp [RequestError.Tells]
  grind

/-- What fails in a request whose query can be written is the request itself. -/
theorem get_of_build_eq_ok (hquery : Query.build params = .ok query) :
    get network chain server endpoint params =
      (below chain server endpoint query).perform network := by
  rw [get, make, hquery]
  rfl

theorem get_of_build_eq_error {failure : Query.Failure}
    (hfailure : Query.build params = .error failure) :
    get network chain server endpoint params = throw (.ofQuery failure) := by
  rw [get, make, hfailure]
  rfl

end Request

/-! ## the program's own failures -/

section Own

/-- The program has words for all failures at an address exactly if it is one. -/
theorem Exchange.fetch_isOwn_iff (h : network.RefusesInvalid) :
    (∀ e, fetch network url = .error e → e.IsOwn) ↔ Url.isValid url = true := by
  simp only [fetch_eq_error_iff h, h.isValid_iff url]
  constructor
  · intro hown
    have hnot {e : FetchError} (hforeign : ∀ url reason, e ≠ .failed url reason) :
        ¬ e.Tells network url := by
      intro htells
      obtain ⟨url', reason, rfl⟩ := hown e htells
      exact hforeign url' reason rfl
    exact ⟨hnot (e := .invalidUrl) (by simp), hnot (e := .notEncodable) (by simp)⟩
  · rintro ⟨hvalid, hbytes⟩ e htells
    cases e with
    | failed url' reason => exact ⟨url', reason, rfl⟩
    | invalidUrl => exact absurd htells hvalid
    | notEncodable => exact absurd htells hbytes

/-- The program has words for all failures of a request, as one of its server, exactly if its
address is one and no body comes back that is nested too deeply. -/
theorem Request.perform_isOwn_iff (h : network.RefusesInvalid) :
    (∀ e, (request.perform network).outcome = .error e → e.IsOwn request.server) ↔
      Url.isValid request.url = true ∧ ¬ request.Decodes network (.error .tooDeep) := by
  simp only [perform_eq_error_iff h, h.isValid_iff request.url]
  constructor
  · intro hown
    have hnot {e : RequestError} (hforeign : e.server? = none) : ¬ e.Tells network request := by
      intro htells
      have hserver : e.server? = some request.server := hown e htells
      simp [hforeign] at hserver
    exact ⟨⟨hnot (e := .invalidUrl) rfl, hnot (e := .notEncodable) rfl⟩, hnot (e := .tooDeep) rfl⟩
  · rintro ⟨⟨hvalid, hbytes⟩, hdeep⟩ e htells
    cases e with
    | unreachable | refused | notJson | reported => exact congrArg some htells.1.symm
    | tooDeep => exact absurd htells hdeep
    | invalidUrl => exact absurd htells hvalid
    | notEncodable => exact absurd htells hbytes
    | longInteger => cases htells

/-- The same for parameters whose query may not be written. -/
theorem Request.get_isOwn_iff (h : network.RefusesInvalid) :
    (∀ e, (get network chain server endpoint params).outcome = .error e → e.IsOwn server) ↔
      ∃ query, Query.build params = .ok query ∧
        Url.isValid (below chain server endpoint query).url = true ∧
        ¬ (below chain server endpoint query).Decodes network (.error .tooDeep) := by
  cases hbuild : Query.build params with
  | error failure =>
    rw [get_of_build_eq_error hbuild]
    refine iff_of_false (fun hown => ?_) nofun
    have hserver : (RequestError.ofQuery failure).server? = some server := hown _ rfl
    cases failure <;> cases hserver
  | ok query =>
    have hperform : (∀ e, ((below chain server endpoint query).perform network).outcome = .error e →
        e.IsOwn server) ↔ _ := perform_isOwn_iff h
    rw [get_of_build_eq_ok hbuild, hperform]
    simp

/-- A failure has a status exactly if the server has refused the request with it. -/
theorem RequestError.status?_of_tells {e : RequestError} (h : e.Tells network request)
    (status : Nat) : e.status? = some status ↔ ∃ body,
      network request.url = .response status body ∧ Exchange.isSuccess status = false := by
  cases e <;> simp_all [status?, Tells, Request.Decodes] <;> grind

theorem Request.status?_of_get (h : network.RefusesInvalid) {e : RequestError}
    (he : (get network chain server endpoint params).outcome = .error e) (status : Nat) :
    e.status? = some status ↔ ∃ query body, Query.build params = .ok query ∧
      network (below chain server endpoint query).url = .response status body ∧
      Exchange.isSuccess status = false := by
  cases hbuild : Query.build params with
  | error failure =>
    rw [get_of_build_eq_error hbuild] at he
    cases he
    cases failure <;> simp [RequestError.ofQuery, RequestError.status?]
  | ok query =>
    rw [get_of_build_eq_ok hbuild] at he
    rw [RequestError.status?_of_tells ((perform_eq_error_iff h).1 he)]
    simp

end Own

/-! ## addresses below a known server -/

section Known

/-- The addresses of the known servers are valid, and go on with a path. -/
theorem isValid_of_known : ∀ chain ∈ Chain.known.values, ∀ server : Server,
    Text.mark ∉ (server.address chain).toList ∧ Url.IsBase (server.address chain) ∧
      Url.isValid (server.address chain) = true := by
  have hall : ∀ chain ∈ Chain.known.values, ∀ server ∈ [Server.rpc, Server.rest],
      Text.mark ∉ (server.address chain).toList ∧ Url.IsBase (server.address chain) ∧
        Url.isValid (server.address chain) = true := by
    decide +kernel
  intro chain hchain server
  exact hall chain hchain server (by cases server <;> simp)

/-- The characters of form encoding are visible ones. -/
theorem Query.IsEncoded.isControl_eq_false {c : Char} (h : IsEncoded c) :
    Url.isControl c = false := by
  by_contra hcontrol
  have hnat : c.toNat < 0x20 ∨ c.toNat = 0x7F := by
    simp only [Url.isControl] at hcontrol
    grind
  have hall : ∀ n < 0x80, n < 0x20 ∨ n = 0x7F → isUnreserved (Char.ofNat n) = false := by decide
  rcases h with h | rfl | rfl
  · rw [← Char.ofNat_toNat c, hall c.toNat (by omega) hnat] at h
    cases h
  · exact absurd hnat (by decide)
  · exact absurd hnat (by decide)

/-- A query is made of visible characters. -/
theorem Query.exists_char_of_build (h : build params = .ok query) :
    ∀ p ∈ Text.pointsOf query, ∃ c, p = .char c ∧ Url.isControl c = false := by
  have hmark : Text.mark ∉ query.toList := not_mem_of_build (by decide) (by decide) h
  rw [Text.pointsOf_of_not_mem hmark, List.forall_mem_map]
  refine fun c hc => ⟨c, rfl, ?_⟩
  by_contra hcontrol
  refine not_mem_of_build (fun hencoded => hcontrol hencoded.isControl_eq_false) (fun hmark => ?_)
    h hc
  simp only [List.mem_cons, List.not_mem_nil, or_false] at hmark
  rcases hmark with rfl | rfl | rfl <;> exact hcontrol rfl

/-- A request below a known server has a valid address unless its endpoint holds a control
character or half of a surrogate pair, or makes it too long. -/
theorem Request.isValid_below (hchain : chain ∈ Chain.known.values) (server : Server)
    (hendpoint : ∀ c ∈ endpoint.toList.head?, Url.isAuthorityChar c = false)
    (hquery : Query.build params = .ok query) :
    Url.isValid (below chain server endpoint query).url = true ↔
      (∀ p ∈ Text.pointsOf endpoint, ∃ c, p = .char c ∧ Url.isControl c = false) ∧
      (Text.pointsOf (below chain server endpoint query).url).length ≤ Url.maxLength := by
  obtain ⟨hplain, hbase, hvalid⟩ := isValid_of_known chain hchain server
  have hmark : ∀ c ∈ query.toList.head?, Url.isAuthorityChar c = false := by
    intro c hc
    rw [Query.head?_of_build hquery c hc]
    rfl
  have hrest : ∀ c ∈ (endpoint ++ query).toList.head?, Url.isAuthorityChar c = false := by
    rw [String.toList_append]
    cases hchars : endpoint.toList with
    | nil => exact hmark
    | cons d ds => rwa [hchars] at hendpoint
  rw [below, String.append_assoc, Url.isValid_append hplain hbase hvalid hrest,
    Text.pointsOf_append (Url.isAfterMark_of_head? hmark), List.forall_mem_append, and_iff_left (Query.exists_char_of_build hquery)]

end Known

/-- **Failed exchanges.**  Take a network that refuses what is no address, and nothing else.
What is fetched is the text of a successful answer, and all failures to fetch it are the
program's own exactly if the address is one.  All failures of a request are its server's own
exactly if, moreover, no body comes back that is nested too deeply to be decoded; and if the
request is made from parameters, these need a query, too.  A failure has a status exactly if
the server has refused the request with it.  Below a known server the address of a request is
one exactly if neither a control character nor half of a surrogate pair stands in the endpoint
and it is not too long. -/
theorem failures_own_iff (h : network.RefusesInvalid) :
    (∀ url,
      ((∀ e, Exchange.fetch network url = .error e → e.IsOwn) ↔ Url.isValid url = true) ∧
      ∀ text, Exchange.fetch network url = .ok text ↔ ∃ status body,
        network url = .response status body ∧ Exchange.isSuccess status = true ∧
          Text.ofChars (Text.Utf8.decodeLossy body).toList = text) ∧
    (∀ request : Request,
      ((∀ e, (request.perform network).outcome = .error e → e.IsOwn request.server) ↔
        Url.isValid request.url = true ∧ ¬ request.Decodes network (.error .tooDeep)) ∧
      ∀ e, (request.perform network).outcome = .error e → ∀ status,
        e.status? = some status ↔ ∃ body, network request.url = .response status body ∧
          Exchange.isSuccess status = false) ∧
    (∀ chain server endpoint params,
      ((∀ e, (Request.get network chain server endpoint params).outcome = .error e →
        e.IsOwn server) ↔ ∃ query, Query.build params = .ok query ∧
          Url.isValid (Request.below chain server endpoint query).url = true ∧
          ¬ (Request.below chain server endpoint query).Decodes network (.error .tooDeep)) ∧
      ∀ e, (Request.get network chain server endpoint params).outcome = .error e → ∀ status,
        e.status? = some status ↔ ∃ query body, Query.build params = .ok query ∧
          network (Request.below chain server endpoint query).url = .response status body ∧
          Exchange.isSuccess status = false) ∧
    ∀ chain ∈ Chain.known.values, ∀ (server : Server) (endpoint : String) params query,
      (∀ c ∈ endpoint.toList.head?, Url.isAuthorityChar c = false) →
      Query.build params = .ok query →
        (Url.isValid (Request.below chain server endpoint query).url = true ↔
          (∀ p ∈ Text.pointsOf endpoint, ∃ c, p = .char c ∧ Url.isControl c = false) ∧
          (Text.pointsOf (Request.below chain server endpoint query).url).length ≤
            Url.maxLength) := by
  refine ⟨fun url => ⟨Exchange.fetch_isOwn_iff h, fun _ => Exchange.fetch_eq_ok_iff h⟩,
    fun request => ⟨Request.perform_isOwn_iff h, fun e he => ?_⟩,
    fun chain server endpoint params => ⟨Request.get_isOwn_iff h, fun e he =>
      Request.status?_of_get h he⟩,
    fun chain hchain server endpoint params query hendpoint hquery =>
      Request.isValid_below hchain server hendpoint hquery⟩
  exact RequestError.status?_of_tells ((Request.perform_eq_error_iff h).1 he)

/-- The network on which every request to an address has the same reply. -/
def answering (reply : Reply) : Network := fun url =>
  if Url.isValid url then reply
  else if Text.hasHalf url then .notEncodable
  else .invalidUrl

theorem refusesInvalid_answering {reply : Reply} (h : reply.isRefusal = false) :
    (answering reply).RefusesInvalid := by
  intro url
  unfold answering
  split
  · next hvalid => simp [hvalid, h]
  · next hinvalid => split <;> simpa [Reply.isRefusal] using hinvalid

/-- A server that is not available: the failures are the program's own, and that of a request
has the status. -/
theorem failures_own_iff_unavailable :
    (answering (.response 503 [])).RefusesInvalid ∧
    (∃ e, Exchange.fetch (answering (.response 503 [])) "https://example.com/kyve.yaml" = .error e ∧
      e.IsOwn) ∧
    ∃ e, (Request.get (answering (.response 503 [])) Route.kyve .rest "/health" []).outcome =
      .error e ∧ e.IsOwn .rest ∧ e.status? = some 503 := by
  have hnetwork : (answering (.response 503 [])).RefusesInvalid := refusesInvalid_answering rfl
  obtain ⟨hfetch, -, hget, hbelow⟩ := failures_own_iff hnetwork
  have hurl : Url.isValid "https://example.com/kyve.yaml" = true := by decide +kernel
  have hquery : Query.build [] = .ok "" := Query.build_eq_empty_iff.2 nofun
  have hhead : ∀ c ∈ "/health".toList.head?, Url.isAuthorityChar c = false := by
    intro c hc
    obtain rfl : '/' = c := Option.some.inj hc
    rfl
  have hvalid : Url.isValid (Request.below Route.kyve .rest "/health" "").url = true := by
    refine (hbelow Route.kyve (by decide) .rest "/health" [] "" hhead hquery).2
      ⟨List.forall_mem_map.2 fun c hc => ⟨c, rfl, ?_⟩, by decide⟩
    have hnone : "/health".toList.any Url.isControl = false := by decide
    exact eq_false_of_ne_true (List.any_eq_false.1 hnone c hc)
  have hreply (url : String) (h : Url.isValid url = true) :
      answering (.response 503 []) url = .response 503 [] := if_pos h
  have hrefused := hreply _ hvalid
  have hdocument : Exchange.fetch (answering (.response 503 [])) "https://example.com/kyve.yaml" =
      .error (.failed _ _) :=
    (Exchange.fetch_eq_error_iff hnetwork).2 ⟨rfl, .inr ⟨503, [], hreply _ hurl, rfl, rfl⟩⟩
  have hanswer : (Request.get (answering (.response 503 [])) Route.kyve .rest "/health"
      []).outcome = .error (.refused .rest 503) := by
    rw [Request.get_of_build_eq_ok hquery]
    exact (Request.perform_eq_error_iff hnetwork).2 ⟨rfl, [], hrefused, rfl⟩
  obtain ⟨hown, hstatus⟩ := hget Route.kyve .rest "/health" []
  refine ⟨hnetwork, ⟨_, hdocument, (hfetch _).1.2 hurl _ hdocument⟩,
    ⟨_, hanswer, hown.2 ⟨"", hquery, hvalid, ?_⟩ _ hanswer,
      (hstatus _ hanswer 503).2 ⟨"", [], hquery, hrefused, rfl⟩⟩⟩
  rintro ⟨status, body, hreply, hsuccess, -⟩
  rw [hrefused] at hreply
  cases hreply
  cases hsuccess

/-- An address with a word for its port, and an endpoint with a line break: the program has no
words for what comes of them. -/
theorem fetch_wordPort :
    (answering (.response 200 [])).RefusesInvalid ∧
    Exchange.fetch (answering (.response 200 [])) "http://h:port/" = .error .invalidUrl ∧
    ¬ FetchError.invalidUrl.IsOwn ∧
    (Request.get (answering (.response 200 [])) Route.kyve .rest "/health\n" []).outcome =
      .error .invalidUrl ∧
    ¬ RequestError.invalidUrl.IsOwn .rest := by
  have hnetwork : (answering (.response 200 [])).RefusesInvalid := refusesInvalid_answering rfl
  have hport : answering (.response 200 []) "http://h:port/" = .invalidUrl := by decide +kernel
  have hbreak : answering (.response 200 [])
      (Request.below Route.kyve .rest "/health\n" "").url = .invalidUrl := by decide +kernel
  have hquery : Query.build [] = .ok "" := Query.build_eq_empty_iff.2 nofun
  refine ⟨hnetwork, (Exchange.fetch_eq_error_iff hnetwork).2 hport, by simp [FetchError.IsOwn],
    ?_, by simp [RequestError.IsOwn, RequestError.server?]⟩
  rw [Request.get_of_build_eq_ok hquery]
  exact (Request.perform_eq_error_iff hnetwork).2 hbreak

end ChainApi
