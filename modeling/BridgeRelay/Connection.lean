import BridgeRelay.Config
import BridgeRelay.Relay
import BridgeRelay.Url

/-!
# Connecting

From settings to a relay: the key, the database and the node of each chain are tried in this order, and the first
one that fails is reported.
-/

namespace BridgeRelay

/-- What can be reached. -/
structure Network where
  /-- the number of the chain that the node under a URL serves, or what went wrong -/
  chainId : (url : String) → Except String UInt64
  /-- the database under a URL, or what went wrong, outermost first -/
  database : (url : String) → Except (List String) Unit

/-- A network on which nobody answers, with what is said of that. -/
def Network.silent (text : String) : Network where
  chainId := fun _ => .error text
  database := fun _ => .error [text, text]

/-! ## Nodes -/

/-- Why the node of a chain was not reached. -/
inductive NodeFault where
  | badUrl (fault : Url.Fault)
  | noAnswer (domain : DomainId) (text : String)
  deriving DecidableEq

/-- The text of the fault, and of what caused it. -/
def NodeFault.messages : NodeFault → String × List String
  | .badUrl f => ("Invalid RPC URL", [f.message])
  | .noAnswer d text => (s!"Failed to query chain ID for domain {d}: {text}", [])

/-- Asks the node under a URL for the number of its chain. -/
def Network.connect (net : Network) (domain : DomainId) (url : String) : Except NodeFault UInt64 :=
  match Url.fault? url with
  | some f => .error (.badUrl f)
  | none => (net.chainId url).mapError (.noAnswer domain)

/-! ## Keys -/

/-- The order of the group to which signing keys belong. -/
def keyOrder : Nat := 0xfffffffffffffffffffffffffffffffebaaedce6af48a03bbfd25e8cd0364141

/-- Whether a text is 64 digits of either case, after at most one `0x` or `0X`, that spell a key: a number above zero
and below the order of the group. -/
def isSigningKey (s : String) : Bool :=
  match Hex.decode 32 (Hex.withoutAnyMark s) with
  | .ok bytes => 0 < ofBigEndian bytes && ofBigEndian bytes < keyOrder
  | .error _ => false

/-! ## The relay -/

/-- Why a relay was not connected. -/
inductive ConnectFault where
  | badKey
  | database (causes : List String)
  | address (fault : AddressFault)
  | node (chain : String) (fault : NodeFault)
  deriving DecidableEq

/-- The text of the fault, and of what caused it. -/
def ConnectFault.messages : ConnectFault → String × List String
  | .badKey => ("RELAYER_PRIVATE_KEY is not a valid secp256k1 key", ["signature error"])
  | .database causes => ("Failed to connect to database", causes)
  | .address f => (f.message, [Address.faultMessage f.fault])
  | .node chain f => (s!"Failed to connect to {chain}", f.messages.1 :: f.messages.2)

/-- The listener and the writer of a chain. Suggested prices and bumps have the same ceiling. -/
def ChainConfig.relayChain (c : ChainConfig) (retry : RetryPolicy) (relayer : Address) :
    Except AddressFault RelayChain :=
  (c.listener retry).map fun listener =>
    { listener
      writer :=
        { domain := c.domain, pollInterval := c.pollInterval, watchLimit := c.watchLimit.toNat, relayer
          readRetry := retry
          signer :=
            { domain := c.domain, pricing := c.gasPricing, gas := c.gasSettings, gasLimit := c.gasLimit
              ceiling := some c.maxGasPrice, retry } } }

namespace Config

/-- The relay that settings describe, for the account that signs. -/
def relay (c : Config) (relayer : Address) : Except AddressFault Relay :=
  (c.chains.mapM fun chain : ChainConfig => chain.relayChain c.retryPolicy relayer).map Relay.mk

/-- Connects one chain. -/
def connectChain (net : Network) (retry : RetryPolicy) (relayer : Address) (c : ChainConfig) :
    Except ConnectFault RelayChain :=
  match c.bridge with
  | .error f => .error (.address f)
  | .ok _ => match net.connect c.domain c.rpcUrl with
    | .error f => .error (.node c.name f)
    | .ok _ => (c.relayChain retry relayer).mapError .address

/-- Connects a relay. -/
def connect (c : Config) (net : Network) (relayer : Address) : Except ConnectFault Relay := do
  if !isSigningKey c.privateKey then .error .badKey
  match c.databaseUrl.mapM net.database with
  | .error causes => .error (.database causes)
  | .ok _ => return ⟨← c.chains.mapM (connectChain net c.retryPolicy relayer)⟩

end Config

end BridgeRelay
