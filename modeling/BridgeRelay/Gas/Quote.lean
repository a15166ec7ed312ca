import BridgeRelay.Destination

/-!
# Quotes

The price of the next transaction, from what the node suggests.
-/

namespace BridgeRelay.GasSettings

/-- The price of a chain with one price per unit of gas. -/
def legacyQuote (s : GasSettings) : Program WriterInterface (Except ChainError GasPrice) := do
  match ← Destination.query .gasPrice with
  | .error e => return .error e
  | .ok suggested => return .ok (.legacy (s.apply suggested))

/-- The price of a chain with base fees. A chain that has none is priced as one without. -/
def londonQuote (s : GasSettings) : Program WriterInterface (Except ChainError GasPrice) := do
  match ← Destination.query .baseFee with
  | .error e => return .error e
  | .ok none => s.legacyQuote
  | .ok (some baseFee) =>
      match ← Destination.query .priorityFee with
      | .error e => return .error e
      | .ok tip => return .ok (s.feePair baseFee tip)

/-- The price under a fee model. -/
def quote (s : GasSettings) : GasPricing → Program WriterInterface (Except ChainError GasPrice)
  | .static => s.legacyQuote
  | .london => s.londonQuote

end BridgeRelay.GasSettings
