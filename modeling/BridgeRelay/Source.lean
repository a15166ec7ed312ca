import BridgeRelay.Chain
import BridgeRelay.Checkpoint
import BridgeRelay.Delivery
import BridgeRelay.Deposit
import BridgeRelay.Host
import BridgeRelay.RelayError

/-!
# Source chains

What a listener asks of the chain that it watches, of the store, and of the rest of the relay.
-/

namespace BridgeRelay

/-- A question to a source chain. -/
inductive SourceQuery where
  /-- the number of the latest block -/
  | head
  /-- the deposits in a range of blocks, in the order of the chain -/
  | deposits (first last : Height)
  /-- the handler that the bridge has for a resource -/
  | handler (resource : ResourceId)
  deriving DecidableEq

/-- What a question to a source chain is answered with. -/
abbrev SourceQuery.Answer : SourceQuery → Type
  | .head => Except ChainError Height
  | .deposits .. => Except ChainError (List DepositLog)
  | .handler _ => Except ChainError Address

/-- The interface of a source chain. -/
abbrev SourceInterface : Interface := ⟨SourceQuery, SourceQuery.Answer⟩

/-- A request of a listener. -/
inductive ListenerRequest where
  | chain (q : SourceQuery)
  | host (r : HostRequest)
  | store (r : StoreRequest)
  /-- hands a message to the writer of its destination and waits for what becomes of it -/
  | route (destination : DomainId) (m : Message)
  /-- puts an error on the channel -/
  | report (r : Report)

/-- What a listener's request is answered with. -/
abbrev ListenerRequest.Answer : ListenerRequest → Type
  | .chain q => q.Answer
  | .host r => r.Answer
  | .store r => r.Answer
  | .route .. => Except RouteError Outcome
  | .report _ => Unit

/-- The interface of a listener. -/
abbrev ListenerInterface : Interface := ⟨ListenerRequest, ListenerRequest.Answer⟩

instance : Hosted ListenerInterface := ⟨fun r => .ask (.host r) .done⟩

instance : Stored ListenerInterface := ⟨fun r => .ask (.store r) .done⟩

namespace Source

/-- Asks the chain. -/
def query (q : SourceQuery) : Program ListenerInterface q.Answer := .ask (.chain q) .done

/-- Hands a message over. -/
def route (destination : DomainId) (m : Message) : Program ListenerInterface (Except RouteError Outcome) :=
  .ask (.route destination m) .done

/-- Reports an error. -/
def report (r : Report) : Program ListenerInterface Unit := .ask (.report r) .done

end Source

end BridgeRelay
