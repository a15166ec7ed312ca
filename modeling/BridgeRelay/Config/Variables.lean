import BridgeRelay.Config

/-!
# Settings as variables

The variables that settings are loaded from: numbers in decimal, truth values as words, and nothing for what is
not set.
-/

namespace BridgeRelay.Config

/-- Named values. Of two with one name the first counts. -/
abbrev Variables := List (String × String)

/-- The value of a name. -/
def Variables.get? (vars : Variables) (key : String) : Option String := vars.lookup key

/-- A variable that is left out if it has no value. -/
def optional (key : String) (value : Option String) : Variables := value.toList.map fun v => (key, v)

/-- The word for a fee model. -/
def pricingWord : GasPricing → String
  | .static => "static"
  | .london => "london"

/-- The word for a truth value. -/
def flagWord (b : Bool) : String := if b then "true" else "false"

/-- The variables of chain number `i`. -/
def chainVariables (i : Nat) (c : ChainConfig) : Variables :=
  let key := chainKey i
  [(key "NAME", c.name), (key "DOMAIN_ID", toString c.domain.toNat), (key "RPC_URL", c.rpcUrl),
   (key "BRIDGE_ADDRESS", c.bridgeAddress)] ++
  optional (key "ERC20_HANDLER") c.fungibleHandler ++
  optional (key "ERC721_HANDLER") c.nonFungibleHandler ++
  optional (key "GENERIC_HANDLER") c.genericHandler ++
  [(key "START_BLOCK", toString c.startBlock.toNat), (key "BLOCK_CONFIRMATIONS", toString c.confirmations.toNat),
   (key "MAX_GAS_PRICE", toString c.maxGasPrice.toNat), (key "GAS_MULTIPLIER", c.gasMultiplier.text),
   (key "GAS_LIMIT", toString c.gasLimit.toNat), (key "POLL_INTERVAL_MS", toString c.pollMillis.toNat),
   (key "GAS_PRICING", pricingWord c.gasPricing), (key "FRESH_START", flagWord c.freshStart),
   (key "LATEST_BLOCK", flagWord c.latestBlock)] ++
  optional (key "MAX_BLOCK_RANGE") (c.maxRange.map fun r => toString r.toNat) ++
  [(key "EXECUTE_WATCH_LIMIT", toString c.watchLimit.toNat)]

/-- The variables of chains from number `i` on. -/
def chainsVariables (i : Nat) : List ChainConfig → Variables
  | [] => []
  | c :: cs => chainVariables i c ++ chainsVariables (i + 1) cs

/-- The variables of all settings. -/
def toVariables (c : Config) : Variables :=
  ("CHAINS_COUNT", toString c.chains.length) :: chainsVariables 1 c.chains ++
  [("RELAYER_PRIVATE_KEY", c.privateKey)] ++ optional "DATABASE_URL" c.databaseUrl ++
  [("API_PORT", toString c.apiPort.toNat), ("RETRY_ATTEMPTS", toString c.retryAttempts.toNat)]

end BridgeRelay.Config
