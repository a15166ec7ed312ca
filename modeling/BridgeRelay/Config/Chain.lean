import BridgeRelay.Address
import BridgeRelay.Gas
import BridgeRelay.Listener

/-!
# Settings of a chain

What is configured for one chain, and the addresses and handlers that its texts stand for.
-/

namespace BridgeRelay

/-- The settings of a chain. Addresses are kept as they are written. -/
structure ChainConfig where
  name : String
  domain : DomainId
  rpcUrl : String
  bridgeAddress : String
  fungibleHandler : Option String := none
  nonFungibleHandler : Option String := none
  genericHandler : Option String := none
  startBlock : Height := 0
  confirmations : UInt64 := 10
  maxGasPrice : Wei := 20000000000
  gasMultiplier : Binary64 := 1
  gasLimit : UInt64 := 6721975
  pollMillis : UInt64 := 5000
  gasPricing : GasPricing := .static
  freshStart : Bool := false
  latestBlock : Bool := false
  maxRange : Option UInt64 := none
  watchLimit : UInt32 := 100
  deriving DecidableEq

/-- An address that is not written as one: of the bridge, or of the handler for a kind of transfer. -/
structure AddressFault where
  chain : String
  handler : Option TransferType
  fault : Hex.Fault
  deriving DecidableEq

/-- The text of the fault. -/
def AddressFault.message (e : AddressFault) : String :=
  match e.handler with
  | none => s!"{e.chain}: invalid bridge address"
  | some t => s!"{e.chain}: invalid {t.text} handler address"

namespace ChainConfig

/-- The time between two looks at the chain. -/
def pollInterval (c : ChainConfig) : Duration := .ofMillis c.pollMillis.toNat

/-- The address of the bridge. -/
def bridge (c : ChainConfig) : Except AddressFault Address :=
  (Address.ofText c.bridgeAddress).mapError fun f => ⟨c.name, none, f⟩

/-- The texts of the handlers that are set, each with the kind of transfer that it carries. -/
def handlerTexts (c : ChainConfig) : List (TransferType × String) :=
  [(.fungible, c.fungibleHandler), (.nonFungible, c.nonFungibleHandler), (.generic, c.genericHandler)].filterMap
    fun (t, text) => text.map fun s => (t, s)

/-- Adds a handler to those that are known. -/
def addHandler (c : ChainConfig) (known : Handlers) (entry : TransferType × String) :
    Except AddressFault Handlers :=
  match Address.ofText entry.2 with
  | .ok a => .ok (known.insert a entry.1)
  | .error f => .error ⟨c.name, some entry.1, f⟩

/-- The handlers. Of two with one address the later one counts. -/
def handlers (c : ChainConfig) : Except AddressFault Handlers := c.handlerTexts.foldlM c.addHandler {}

/-- How suggested prices are scaled and capped. -/
def gasSettings (c : ChainConfig) : GasSettings := ⟨c.gasMultiplier, some c.maxGasPrice⟩

/-- The listener of the chain. -/
def listener (c : ChainConfig) (backoff : RetryPolicy) : Except AddressFault Listener :=
  c.handlers.map fun handlers =>
    { domain := c.domain, startBlock := c.startBlock, confirmations := c.confirmations
      pollInterval := c.pollInterval, freshStart := c.freshStart, latestBlock := c.latestBlock
      maxRange := c.maxRange, handlers, backoff }

end ChainConfig

end BridgeRelay
