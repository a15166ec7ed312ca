import BridgeRelay.Bytes
import BridgeRelay.Payload

/-!
# Handler contracts

The handlers of a source chain and the kind of transfer that each of them carries.
-/

namespace BridgeRelay

/-- For each handler the kind of transfer that was set last. -/
structure Handlers where
  entries : List (Address × TransferType) := []
  deriving DecidableEq, Inhabited

namespace Handlers

/-- Sets the kind of transfer of a handler in place of an earlier one. -/
def insert (h : Handlers) (a : Address) (t : TransferType) : Handlers :=
  ⟨h.entries.filter (fun entry => entry.1 ≠ a) ++ [(a, t)]⟩

/-- The kind of transfer of a handler. -/
def find? (h : Handlers) (a : Address) : Option TransferType := h.entries.lookup a

end Handlers

end BridgeRelay
