import ChainApi.Check

/-!
# ChainApi.Chain

The public servers of the supported chains.

* `Chain.known` — the chains by key;
* `Chain.find?` — the chain of a name in any case.
-/

namespace ChainApi

/-- The servers of a chain. -/
structure ChainUrls where
  rpc : String
  rest : String
  socket : String
  deriving DecidableEq, Repr, Inhabited

/-- The prefixes of a chain's addresses: of accounts, validators and consensus
nodes. -/
structure ChainPrefixes where
  account : String
  validator : String
  consensus : String
  deriving DecidableEq, Repr, Inhabited

/-- A chain and how to reach it. -/
structure Chain where
  name : String
  urls : ChainUrls
  prefixes : ChainPrefixes
  /-- The decimal places of the native token. -/
  decimals : Int
  deriving DecidableEq, Repr, Inhabited

open Value

/-- Read the servers of a chain. -/
def ChainUrls.ofValue (v : Value) : Checked ChainUrls :=
  v.checkRecord <|
    ChainUrls.mk <$> v.required "rpc" checkText <*> v.required "rest" checkText
      <*> v.required "socket" checkText

/-- Read the prefixes of a chain. -/
def ChainPrefixes.ofValue (v : Value) : Checked ChainPrefixes :=
  v.checkRecord <|
    ChainPrefixes.mk <$> v.required "prefix" checkText <*> v.required "valoper_prefix" checkText
      <*> v.required "cons_prefix" checkText

namespace Chain

/-- Read a chain. -/
def ofValue (v : Value) : Checked Chain :=
  v.checkRecord <|
    Chain.mk <$> v.required "name" checkText <*> v.required "urls" ChainUrls.ofValue
      <*> v.required "prefixes" ChainPrefixes.ofValue <*> v.required "decimals" checkInteger

/-- The supported chains by key. -/
def known : Table Chain := ⟨[
  ("axelar", {
    name := "Axelar"
    urls := ⟨"https://rpc.cosmos.directory/axelar", "https://axelar-api.polkachu.com",
      "wss://axelar-rpc.chainode.tech/websocket"⟩
    prefixes := ⟨"axelar", "axelarvaloper", "axelarvalcon"⟩
    decimals := 6 }),
  ("celestia", {
    name := "Celestia"
    urls := ⟨"https://rpc.celestia.testnet.run", "https://api.celestia.testnet.run",
      "wss://rpc.celestia.testnet.run/websocket"⟩
    prefixes := ⟨"celestia", "celestiavaloper", "celestiavalcon"⟩
    decimals := 6 }),
  ("kyve", {
    name := "Kyve"
    urls := ⟨"https://rpc.beta.kyve.network", "https://api.beta.kyve.network",
      "wss://rpc.beta.kyve.network/websocket"⟩
    prefixes := ⟨"kyve", "kyvevaloper", "kyvevalcon"⟩
    decimals := 6 }),
  ("osmosis", {
    name := "Osmosis"
    urls := ⟨"https://rpc.cosmos.directory/osmosis", "https://rest.cosmos.directory/osmosis",
      "wss://rpc.osmosis.interbloc.org/websocket"⟩
    prefixes := ⟨"osmosis", "osmovaloper", "osmovalcons"⟩
    decimals := 6 }),
  ("secret", {
    name := "Secret"
    urls := ⟨"https://rpc.cosmos.directory/secretnetwork",
      "https://rest.cosmos.directory/secretnetwork",
      "wss://rpc.secret.express/websocket"⟩
    prefixes := ⟨"secret", "secretvaloper", "secretvalcon"⟩
    decimals := 6 }),
  ("evmos", {
    name := "Evmos"
    urls := ⟨"https://rpc.cosmos.directory/evmos", "https://evmos-api.polkachu.com",
      "wss://rpc.evmos.bh.rocks/websocket"⟩
    prefixes := ⟨"evmos", "evmosvaloper", "evmosvalcon"⟩
    decimals := 18 })], by decide⟩

/-- A letter in lower case.  Outside ASCII only the Kelvin sign has an ASCII letter
as its lower case, so no other character can occur in the key of a chain. -/
def lowerChar (c : Char) : Char := if c = '\u212A' then 'k' else c.toLower

/-- There is no chain of this name. -/
structure UnknownChain where
  name : String
  deriving DecidableEq, Repr

/-- The wording of the failure. -/
def UnknownChain.message (e : UnknownChain) : String :=
  "Unknown chain '" ++ e.name ++ "'. Available: " ++ ", ".intercalate known.keys

/-- The chain of a name in any case. -/
def find? (name : String) : Except UnknownChain Chain :=
  match known.get? (name.map lowerChar) with
  | some chain => .ok chain
  | none => .error ⟨name⟩

end Chain

end ChainApi
