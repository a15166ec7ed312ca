import BridgeRelay.Bytes

/-!
# Chains

The numbers of chains and blocks, and the failures of a node.
-/

namespace BridgeRelay

/-- The number that the bridge gives a chain. -/
abbrev DomainId := UInt8

/-- The number that the source bridge gives a deposit, counted per route. -/
abbrev DepositNonce := UInt64

/-- The number of a block. -/
abbrev Height := UInt64

/-- The largest height. -/
def Height.last : Height := 0xffffffffffffffff

/-! ## Failures of a node -/

/-- Why a node did not do what it was asked. -/
inductive ChainError where
  | rpc (text : String)
  | reverted (text : String)
  | timeout (text : String)
  | invalid (text : String)
  deriving DecidableEq, Repr

/-- The word for the kind of failure. -/
def ChainError.kind : ChainError → String
  | .rpc _ => "rpc"
  | .reverted _ => "reverted"
  | .timeout _ => "timeout"
  | .invalid _ => "invalid"

/-- The text of the failure. -/
def ChainError.message : ChainError → String
  | .rpc s => s!"rpc error: {s}"
  | .reverted s => s!"reverted: {s}"
  | .timeout s => s!"timed out: {s}"
  | .invalid s => s!"invalid response: {s}"

end BridgeRelay
