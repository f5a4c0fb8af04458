import ChainApi.Chain
import ChainApi.Exchange
import ChainApi.Json
import ChainApi.Query

/-!
# ChainApi.Client

Requests to the two servers of a chain.  Both answer in JSON.  The RPC server
wraps its result into an envelope, which may carry an error instead; the REST
server answers a failure by a mapping with a message.

* `Request.make` — the request for an endpoint with parameters, if these have a query;
* `Request.perform` — the result of a request, or why there is none;
* `Request.get` — both, one after the other.
-/

namespace ChainApi

/-- The servers of a chain that answer requests. -/
inductive Server where
  | rpc
  | rest
  deriving DecidableEq, Repr

/-- The name of a server in messages. -/
def Server.label : Server → String
  | rpc => "RPC"
  | rest => "REST"

/-- The address of a server. -/
def Server.address (chain : Chain) : Server → String
  | rpc => chain.urls.rpc
  | rest => chain.urls.rest

/-- A request to a server of a chain. -/
structure Request where
  server : Server
  url : String
  deriving DecidableEq, Repr

/-- Why a request has no result. -/
inductive RequestError where
  | unreachable (server : Server) (url reason : String)
  | refused (server : Server) (status : Nat)
  | notJson (server : Server) (url : String)
  /-- The server reported an error of its own. -/
  | reported (server : Server) (report : Value)
  /-- The body is nested too deeply to be decoded. -/
  | tooDeep
  /-- The address is none. -/
  | invalidUrl
  /-- An integer is too long to be written into the query. -/
  | longInteger
  /-- A text of the query, or the address, holds half of a surrogate pair. -/
  | notEncodable
  deriving DecidableEq

namespace RequestError

/-- The wording of the failure. -/
def message : RequestError → String
  | unreachable server url reason =>
    server.label ++ " request to " ++ url ++ " failed: " ++ reason
  | refused server status => server.label ++ " Error. Status: " ++ toString status
  | notJson server url => server.label ++ " response from " ++ url ++ " is not JSON"
  | reported server report => server.label ++ " Error. Message: " ++ report.text
  | tooDeep => "Nested too deeply"
  | invalidUrl => "Invalid URL"
  | longInteger => "Exceeds the limit for integer string conversion"
  | notEncodable => "Surrogates not allowed"

/-- The server whose failure it is; none if the program has no words for it. -/
def server? : RequestError → Option Server
  | unreachable server _ _ | refused server _ | notJson server _ | reported server _ => some server
  | tooDeep | invalidUrl | longInteger | notEncodable => none

/-- Parameters that have no query. -/
def ofQuery : Query.Failure → RequestError
  | .longInteger => longInteger
  | .notEncodable => notEncodable

/-- The status that the server refused the request with. -/
def status? : RequestError → Option Nat
  | refused _ status => some status
  | _ => none

end RequestError

namespace Request

/-- A request for an endpoint with a query. -/
def below (chain : Chain) (server : Server) (endpoint query : String) : Request :=
  ⟨server, server.address chain ++ endpoint ++ query⟩

/-- A request for an endpoint with the given parameters. -/
def make (chain : Chain) (server : Server) (endpoint : String) (params : List (Value × Value)) :
    Except Query.Failure Request :=
  (Query.build params).map (below chain server endpoint)

/-- The decoded body of the answer to a request. -/
def payload (network : Network) (r : Request) : Logged RequestError Value :=
  match Exchange.send network r.url with
  | .unreachable reason => throw (.unreachable r.server r.url reason)
  | .invalidUrl => throw .invalidUrl
  | .notEncodable => throw .notEncodable
  | .response status body =>
    if Exchange.isSuccess status then
      match Json.decode body with
      | .ok v => pure v
      | .error .malformed => throw (.notJson r.server r.url)
      | .error .tooDeep => throw .tooDeep
    else do
      Logged.note (.requestRefused r.server.label r.url status)
      throw (.refused r.server status)

/-- The member in which a server reports an error. -/
def reportMember : Server → String
  | .rpc => "error"
  | .rest => "message"

/-- What a decoded body says: an error if its report counts as something, and else
the result of an RPC envelope, or the body itself. -/
def interpret (server : Server) (body : Value) : Except RequestError Value :=
  match body.get? (reportMember server) with
  | some report =>
    if report.isTruthy then .error (.reported server report) else .ok (result body)
  | none => .ok (result body)
where
  /-- The result that a body without an error carries. -/
  result (body : Value) : Value :=
    match server, body with
    | .rpc, .map es => ((Value.map es).get? "result").getD .null
    | _, v => v

/-- The result of a request. -/
def perform (network : Network) (r : Request) : Logged RequestError Value := do
  let body ← r.payload network
  Logged.ofExcept (interpret r.server body)

/-- The result of a request for an endpoint with the given parameters. -/
def get (network : Network) (chain : Chain) (server : Server) (endpoint : String)
    (params : List (Value × Value)) : Logged RequestError Value := do
  let request ← Logged.ofExcept ((make chain server endpoint params).mapError .ofQuery)
  request.perform network

end Request

end ChainApi
