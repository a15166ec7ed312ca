import BridgeRelay.Binary64.Text
import BridgeRelay.Config.Chain
import BridgeRelay.Text.Character
import BridgeRelay.Text.Numeral
import BridgeRelay.Writer

/-!
# Configuration

The settings of a relay, how they are read from named variables, and which of them are refused. Chains are numbered
from one: `CHAINS_COUNT` says how many there are, and the variables of chain `i` begin with `CHAIN_i_`.
-/

namespace BridgeRelay

/-- The settings of a relay. -/
structure Config where
  chains : List ChainConfig
  privateKey : String
  /-- where checkpoints are kept; in memory if there is no such place -/
  databaseUrl : Option String := none
  apiPort : UInt16 := 9090
  retryAttempts : UInt32 := 5
  deriving DecidableEq

namespace Config

/-! ## Faults -/

/-- Why settings are refused. -/
inductive Fault where
  | noChains
  /-- a required variable is missing -/
  | required (key : String)
  /-- the number of a chain is missing -/
  | missing (key : String)
  | invalid (key raw reason : String)
  | emptyUrl (chain : String)
  | badBridge (chain : String)
  | badHandler (chain address : String)
  | noPollInterval (chain : String)
  | badMultiplier (chain : String)
  | repeatedDomain (domain : DomainId)
  | badKey
  | noAttempts
  deriving DecidableEq, Repr

/-- The text of a fault. -/
def Fault.message : Fault → String
  | noChains => "CHAINS_COUNT must name at least one chain"
  | required key => s!"{key} environment variable is required"
  | missing key => s!"Missing {key}"
  | invalid key raw reason => s!"{key} has an invalid value '{raw}': {reason}"
  | emptyUrl chain => s!"{chain}: rpc_url cannot be empty"
  | badBridge chain => s!"{chain}: bridge_address must be a valid hex address (42 chars with 0x prefix)"
  | badHandler chain address => s!"{chain}: handler address {address} must be 42 chars with 0x prefix"
  | noPollInterval chain => s!"{chain}: poll interval must be greater than 0"
  | badMultiplier chain => s!"{chain}: gas multiplier must be positive"
  | repeatedDomain d =>
      s!"Domain {d} is configured more than once. " ++
        "Two listeners on one domain would race on the same checkpoint."
  | badKey => "private key must be 66 chars (0x + 64 hex chars)"
  | noAttempts => "RETRY_ATTEMPTS must be at least 1"

/-! ## Validation -/

/-- Whether a text is `0x` and 40 digits of either case. -/
def isHexAddress (s : String) : Bool :=
  match s.toUTF8.toList with
  | 48 :: 120 :: digits => digits.length = 40 && digits.all fun b => (Hex.value? b).isSome
  | _ => false

/-- Whether a text is `0x` and 64 more bytes. -/
def isKeyShaped (s : String) : Bool :=
  match s.toUTF8.toList with
  | 48 :: 120 :: rest => rest.length = 64
  | _ => false

/-- The first fault in the settings of a chain, if the given domains are taken. -/
def chainFault? (taken : List DomainId) (c : ChainConfig) : Option Fault :=
  if c.rpcUrl.isEmpty then some (.emptyUrl c.name)
  else if !isHexAddress c.bridgeAddress then some (.badBridge c.name)
  else match c.handlerTexts.find? fun h => !isHexAddress h.2 with
    | some (_, address) => some (.badHandler c.name address)
    | none =>
        if c.pollMillis = 0 then some (.noPollInterval c.name)
        else if !c.gasMultiplier.isPositive then some (.badMultiplier c.name)
        else if c.domain ∈ taken then some (.repeatedDomain c.domain)
        else none

/-- The first fault in the settings of chains, if the given domains are taken. -/
def chainsFault? (taken : List DomainId) : List ChainConfig → Option Fault
  | [] => none
  | c :: cs => (chainFault? taken c).or (chainsFault? (c.domain :: taken) cs)

/-- The first fault in the settings. -/
def fault? (c : Config) : Option Fault :=
  match chainsFault? [] c.chains with
  | some f => some f
  | none =>
      if !isKeyShaped c.privateKey then some .badKey
      else if c.retryAttempts = 0 then some .noAttempts
      else none

/-- Accepts settings without a fault. -/
def validate (c : Config) : Except Fault Unit :=
  match c.fault? with
  | some f => .error f
  | none => .ok ()

/-! ## Variables -/

/-- A source of variables. -/
abbrev Lookup := String → Option String

/-- How the text of a value is read. -/
abbrev Reader (α : Type) := List Char → Except String α

namespace Reader

/-- Reads a numeral up to a bound. -/
def nat (bound : Nat) : Reader Nat := fun cs => (Text.readNat bound cs).mapError Text.NumeralFault.message

def uint8 : Reader UInt8 := fun cs => (nat (UInt8.size - 1) cs).map UInt8.ofNat
def uint16 : Reader UInt16 := fun cs => (nat (UInt16.size - 1) cs).map UInt16.ofNat
def uint32 : Reader UInt32 := fun cs => (nat (UInt32.size - 1) cs).map UInt32.ofNat
def uint64 : Reader UInt64 := fun cs => (nat (UInt64.size - 1) cs).map UInt64.ofNat
def wei : Reader Wei := fun cs => (nat Wei.bound cs).map Wei.ofNat

/-- Reads a number in floating point. -/
def binary64 : Reader Binary64 := fun cs => (Binary64.ofText cs).mapError Binary64.TextFault.message

/-- Reads `true` or `false`. -/
def bool : Reader Bool := fun cs =>
  match Text.readBool? cs with
  | some b => .ok b
  | none => .error "provided string was not `true` or `false`"

/-- Reads the name of a fee model. -/
def gasPricing : Reader GasPricing := fun cs => GasPricing.ofText (String.ofList cs)

end Reader

/-- The value of a required variable. -/
def get (vars : Lookup) (key : String) : Except Fault String :=
  match vars key with
  | some s => .ok s
  | none => .error (.required key)

/-- The value of a variable, read without the white space around it, if the variable is set. -/
def read? {α : Type} (vars : Lookup) (reader : Reader α) (key : String) : Except Fault (Option α) :=
  match vars key with
  | none => .ok none
  | some raw =>
      match reader (Text.trim raw.toList) with
      | .ok a => .ok (some a)
      | .error reason => .error (.invalid key raw reason)

/-- The value of a variable, or a default. -/
def readD {α : Type} (vars : Lookup) (reader : Reader α) (key : String) (default : α) : Except Fault α :=
  (read? vars reader key).map fun a => a.getD default

/-! ## Loading -/

/-- The name of a variable of chain number `i`. -/
def chainKey (i : Nat) (suffix : String) : String := s!"CHAIN_{i}_{suffix}"

/-- The settings of chain number `i`. -/
def loadChain (vars : Lookup) (i : Nat) : Except Fault ChainConfig := do
  let key := chainKey i
  let some domain ← read? vars .uint8 (key "DOMAIN_ID") | .error (.missing (key "DOMAIN_ID"))
  let rpcUrl ← get vars (key "RPC_URL")
  let bridgeAddress ← get vars (key "BRIDGE_ADDRESS")
  let startBlock ← readD vars .uint64 (key "START_BLOCK") 0
  let confirmations ← readD vars .uint64 (key "BLOCK_CONFIRMATIONS") 10
  let maxGasPrice ← readD vars .wei (key "MAX_GAS_PRICE") 20000000000
  let gasMultiplier ← readD vars .binary64 (key "GAS_MULTIPLIER") 1
  let gasLimit ← readD vars .uint64 (key "GAS_LIMIT") 6721975
  let pollMillis ← readD vars .uint64 (key "POLL_INTERVAL_MS") 5000
  let gasPricing ← readD vars .gasPricing (key "GAS_PRICING") .static
  let freshStart ← readD vars .bool (key "FRESH_START") false
  let latestBlock ← readD vars .bool (key "LATEST_BLOCK") false
  let maxRange ← read? vars .uint64 (key "MAX_BLOCK_RANGE")
  let watchLimit ← readD vars .uint32 (key "EXECUTE_WATCH_LIMIT") 100
  return { name := (vars (key "NAME")).getD s!"chain_{i}", domain, rpcUrl, bridgeAddress
           fungibleHandler := vars (key "ERC20_HANDLER"), nonFungibleHandler := vars (key "ERC721_HANDLER")
           genericHandler := vars (key "GENERIC_HANDLER"), startBlock, confirmations, maxGasPrice
           gasMultiplier, gasLimit, pollMillis, gasPricing, freshStart, latestBlock
           maxRange := maxRange.filter fun r => 0 < r, watchLimit }

/-- The settings of so many chains from number `i` on. -/
def loadChains (vars : Lookup) (i : Nat) : (count : Nat) → Except Fault (List ChainConfig)
  | 0 => .ok []
  | count + 1 => do
      let c ← loadChain vars i
      return c :: (← loadChains vars (i + 1) count)

/-- Reads settings from variables and validates them. -/
def load (vars : Lookup) : Except Fault Config := do
  let count ← readD vars (.nat (UInt64.size - 1)) "CHAINS_COUNT" 0
  if count = 0 then .error .noChains
  let chains ← loadChains vars 1 count
  let privateKey ← get vars "RELAYER_PRIVATE_KEY"
  let apiPort ← readD vars .uint16 "API_PORT" 9090
  let retryAttempts ← readD vars .uint32 "RETRY_ATTEMPTS" 5
  let config : Config :=
    { chains, privateKey, databaseUrl := (vars "DATABASE_URL").filter fun s => !s.isEmpty, apiPort, retryAttempts }
  config.validate
  return config

/-! ## Use -/

/-- The policy for transactions and reads. -/
def retryPolicy (c : Config) : RetryPolicy := { maxAttempts := c.retryAttempts.toNat }

/-- The settings that belong to no chain, with what has to stay secret left out. -/
def redacted (c : Config) : String :=
  let hidden := "\"<redacted>\""
  let database := if c.databaseUrl.isSome then s!"Some({hidden})" else "None"
  s!"private_key: {hidden}, database_url: {database}, api_port: {c.apiPort}, " ++
    s!"retry_attempts: {c.retryAttempts} \x7d"

end Config

end BridgeRelay
