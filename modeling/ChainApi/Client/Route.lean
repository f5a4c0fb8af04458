import ChainApi.Client

/-!
# ChainApi.Client.Route

The requests that a chain's servers are known to answer.  A route says which
arguments a request takes, how they make up its path, and which of them form its
query.

* `Route.all` — the routes;
* `Route.bind` — arguments given by position or by name, each at most once;
* `Route.request` — the request of a route for given arguments;
* `Route.call` — the request of the route with a given name.
-/

namespace ChainApi

/-- A part of the path of a route. -/
inductive Segment where
  | text (s : String)
  /-- The value of an argument, as it is. -/
  | argument (name : String)
  deriving DecidableEq, Repr

/-- Where the query of a route comes from. -/
inductive QuerySource where
  | nothing
  /-- Query parameters and the arguments that hold their values. -/
  | fields (fields : List (String × String))
  /-- An argument that is itself a mapping, or nothing. -/
  | mapping (argument : String)
  deriving DecidableEq, Repr

/-- Query parameters under the names of the arguments. -/
def QuerySource.named (names : List String) : QuerySource := .fields (names.map fun n => (n, n))

/-- A kind of request. -/
structure Route where
  name : String
  server : Server
  /-- The arguments that have to be given, in order. -/
  required : List String := []
  /-- The arguments that may follow. -/
  optional : List String := []
  path : List Segment
  query : QuerySource := .nothing
  deriving DecidableEq, Repr

/-- Why arguments do not make up a request. -/
inductive CallError where
  /-- There is no such route. -/
  | unknownRoute (name : String)
  /-- This is something else that a client has. -/
  | notRoute (name : String)
  /-- Too many arguments, an unknown or repeated one, or one that is missing. -/
  | wrongArguments (name : String)
  /-- What should be a mapping of query parameters is something else. -/
  | notMapping (argument : String)
  /-- The path or the query cannot be written. -/
  | unwritten (failure : Query.Failure)
  deriving DecidableEq, Repr

/-- What a client may be asked to do. -/
inductive Call where
  | request (r : Request)
  /-- Give up the connection. -/
  | close
  deriving DecidableEq, Repr

namespace Route

/-- The arguments of a route, in order. -/
def arguments (r : Route) : List String := r.required ++ r.optional

/-- The value of every argument of a route, if those given fit.  Arguments by
position come first; one that is not given is `null`. -/
def bind (r : Route) (positional : List Value) (named : List (String × Value)) :
    Except CallError (List (String × Value)) :=
  let taken := r.arguments.take positional.length
  let free := r.arguments.drop positional.length
  let fits :=
    positional.length ≤ r.arguments.length && named.all (fun a => free.contains a.1) &&
      (named.map Prod.fst).eraseDups.length == named.length &&
      r.required.all fun a => taken.contains a || (named.map Prod.fst).contains a
  if fits then
    .ok (taken.zip positional ++ free.map fun a => (a, (named.lookup a).getD .null))
  else .error (.wrongArguments r.name)

/-- The value of an argument. -/
def valueOf (arguments : List (String × Value)) (name : String) : Value :=
  (arguments.lookup name).getD .null

/-- The text of a part of a path, unless it cannot be written. -/
def segmentText? (arguments : List (String × Value)) : Segment → Option String
  | .text s => some s
  | .argument name => (valueOf arguments name).text?

/-- The path of a route, unless an argument cannot be written. -/
def pathText? (r : Route) (arguments : List (String × Value)) : Option String :=
  (r.path.mapM (segmentText? arguments)).map String.join

/-- The query parameters of a route. -/
def queryParams (r : Route) (arguments : List (String × Value)) :
    Except CallError (List (Value × Value)) :=
  match r.query with
  | .nothing => .ok []
  | .fields fields => .ok (fields.map fun f => (.str f.1, valueOf arguments f.2))
  | .mapping name =>
    match valueOf arguments name with
    | .map es => .ok es
    | v => if v.isTruthy then .error (.notMapping name) else .ok []

/-- The request of a route for the values of its arguments. -/
def request (r : Route) (chain : Chain) (arguments : List (String × Value)) :
    Except CallError Request := do
  let some path := r.pathText? arguments | .error (.unwritten .longInteger)
  let params ← r.queryParams arguments
  (Request.make chain r.server path params).mapError .unwritten

/-- The routes. -/
def all : List Route := [
  { name := "rpc_request", server := .rpc, required := ["endpoint"], optional := ["params"],
    path := [.argument "endpoint"], query := .mapping "params" },
  { name := "rest_get_request", server := .rest, required := ["endpoint"],
    optional := ["params"], path := [.argument "endpoint"], query := .mapping "params" },
  { name := "get_health", server := .rpc, path := [.text "/health"] },
  { name := "get_status", server := .rpc, path := [.text "/status"] },
  { name := "get_net_info", server := .rpc, path := [.text "/net_info"] },
  { name := "get_blockchain", server := .rpc, optional := ["min_height", "max_height"],
    path := [.text "/blockchain"],
    query := .fields [("minHeight", "min_height"), ("maxHeight", "max_height")] },
  { name := "get_block", server := .rpc, optional := ["height"], path := [.text "/block"],
    query := .named ["height"] },
  { name := "get_block_by_hash", server := .rpc, required := ["block_hash"],
    path := [.text "/block_by_hash"], query := .fields [("hash", "block_hash")] },
  { name := "get_block_results", server := .rpc, optional := ["height"],
    path := [.text "/block_results"], query := .named ["height"] },
  { name := "get_commit", server := .rpc, optional := ["height"], path := [.text "/commit"],
    query := .named ["height"] },
  { name := "get_validators", server := .rpc, optional := ["height", "page", "per_page"],
    path := [.text "/validators"], query := .named ["height", "page", "per_page"] },
  { name := "get_genesis", server := .rpc, path := [.text "/genesis"] },
  { name := "get_dump_consensus_state", server := .rpc, path := [.text "/dump_consensus_state"] },
  { name := "get_consensus_state", server := .rpc, path := [.text "/consensus_state"] },
  { name := "get_consensus_params", server := .rpc, optional := ["height"],
    path := [.text "/consensus_params"], query := .named ["height"] },
  { name := "get_unconfirmed_txs", server := .rpc, optional := ["limit"],
    path := [.text "/unconfirmed_txs"], query := .named ["limit"] },
  { name := "get_num_unconfirmed_txs", server := .rpc, path := [.text "/num_unconfirmed_txs"] },
  { name := "search_tx", server := .rpc, required := ["query"],
    optional := ["prove", "page", "per_page", "order_by"], path := [.text "/tx_search"],
    query := .named ["query", "prove", "page", "per_page", "order_by"] },
  { name := "search_block", server := .rpc, required := ["query"],
    optional := ["page", "per_page", "order_by"], path := [.text "/block_search"],
    query := .named ["query", "page", "per_page", "order_by"] },
  { name := "get_tx", server := .rpc, required := ["tx_hash"], optional := ["prove"],
    path := [.text "/tx"], query := .fields [("hash", "tx_hash"), ("prove", "prove")] },
  { name := "broadcast_evidence", server := .rpc, required := ["evidence"],
    path := [.text "/broadcast_evidence"], query := .named ["evidence"] },
  { name := "broadcast_tx_sync", server := .rpc, required := ["tx"],
    path := [.text "/broadcast_tx_sync"], query := .named ["tx"] },
  { name := "broadcast_tx_async", server := .rpc, required := ["tx"],
    path := [.text "/broadcast_tx_async"], query := .named ["tx"] },
  { name := "broadcast_tx_commit", server := .rpc, required := ["tx"],
    path := [.text "/broadcast_tx_commit"], query := .named ["tx"] },
  { name := "check_tx", server := .rpc, required := ["tx"], path := [.text "/check_tx"],
    query := .named ["tx"] },
  { name := "get_abci_info", server := .rpc, path := [.text "/abci_info"] },
  { name := "query_abci", server := .rpc, required := ["path", "data"],
    optional := ["height", "prove"], path := [.text "/abci_query"],
    query := .named ["path", "data", "height", "prove"] },
  { name := "get_node_info", server := .rest, path := [.text "/node_info"] },
  { name := "get_proposals", server := .rest, optional := ["query"],
    path := [.text "/cosmos/gov/v1beta1/proposals"], query := .mapping "query" },
  { name := "get_proposal", server := .rest, required := ["proposal_id"],
    path := [.text "/cosmos/gov/v1beta1/proposals/", .argument "proposal_id"] },
  { name := "get_proposal_deposits", server := .rest, required := ["proposal_id"],
    optional := ["query"],
    path := [.text "/cosmos/gov/v1beta1/proposals/", .argument "proposal_id", .text "/deposits"],
    query := .mapping "query" },
  { name := "get_proposal_depositor", server := .rest, required := ["proposal_id", "depositor"],
    path := [.text "/cosmos/gov/v1beta1/proposals/", .argument "proposal_id",
      .text "/deposits/", .argument "depositor"] },
  { name := "get_proposal_tally", server := .rest, required := ["proposal_id"],
    path := [.text "/cosmos/gov/v1beta1/proposals/", .argument "proposal_id", .text "/tally"] },
  { name := "get_proposal_votes", server := .rest, required := ["proposal_id"],
    optional := ["query"],
    path := [.text "/cosmos/gov/v1beta1/proposals/", .argument "proposal_id", .text "/votes"],
    query := .mapping "query" },
  { name := "get_proposal_voter", server := .rest, required := ["proposal_id", "voter"],
    path := [.text "/cosmos/gov/v1beta1/proposals/", .argument "proposal_id",
      .text "/votes/", .argument "voter"] },
  { name := "get_slashing_params", server := .rest,
    path := [.text "/cosmos/slashing/v1beta1/params"] },
  { name := "get_slashing_signing_infos", server := .rest, optional := ["query"],
    path := [.text "/cosmos/slashing/v1beta1/signing_infos"], query := .mapping "query" },
  { name := "get_slashing_signing_info", server := .rest, required := ["cons_address"],
    path := [.text "/cosmos/slashing/v1beta1/signing_infos/", .argument "cons_address"] },
  { name := "get_all_evidence", server := .rest, optional := ["query"],
    path := [.text "/cosmos/evidence/v1beta1/evidence"], query := .mapping "query" },
  { name := "get_evidence", server := .rest, required := ["evidence_hash"],
    path := [.text "/cosmos/evidence/v1beta1/evidence/", .argument "evidence_hash"] },
  { name := "get_balances", server := .rest, required := ["address"], optional := ["query"],
    path := [.text "/cosmos/bank/v1beta1/balances/", .argument "address"],
    query := .mapping "query" },
  { name := "get_balance", server := .rest, required := ["address", "denom"],
    path := [.text "/cosmos/bank/v1beta1/balances/", .argument "address", .text "/by_denom"],
    query := .named ["denom"] },
  { name := "get_staking_params", server := .rest,
    path := [.text "/cosmos/staking/v1beta1/params"] },
  { name := "get_bank_params", server := .rest, path := [.text "/cosmos/bank/v1beta1/params"] },
  { name := "get_distribution_params", server := .rest,
    path := [.text "/cosmos/distribution/v1beta1/params"] },
  { name := "get_auth_params", server := .rest, path := [.text "/cosmos/auth/v1beta1/params"] },
  { name := "get_supplies", server := .rest, optional := ["query"],
    path := [.text "/cosmos/bank/v1beta1/supply"], query := .mapping "query" },
  { name := "get_supply", server := .rest, required := ["denom"],
    path := [.text "/cosmos/bank/v1beta1/supply/", .argument "denom"] }]

/-- The route with a given name. -/
def find? (name : String) : Option Route := all.find? fun r => r.name == name

/-- What a client has beside its routes. -/
def properties : List String := ["name", "info"]

/-- What a client is asked to do by a name and arguments. -/
def call (chain : Chain) (name : String) (positional : List Value)
    (named : List (String × Value)) : Except CallError Call :=
  match find? name with
  | some r => do
    let arguments ← r.bind positional named
    return .request (← r.request chain arguments)
  | none =>
    if name = "close" then
      if positional.isEmpty && named.isEmpty then .ok .close else .error (.wrongArguments name)
    else if properties.contains name then .error (.notRoute name)
    else .error (.unknownRoute name)

/-- No two routes have one name. -/
theorem nodup_names : (all.map Route.name).Nodup := by decide

end Route

end ChainApi
