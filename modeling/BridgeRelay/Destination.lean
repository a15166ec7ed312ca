import BridgeRelay.BridgeCall
import BridgeRelay.Chain
import BridgeRelay.Gas
import BridgeRelay.Host

/-!
# Destination chains

What a writer asks of the chain to which it brings messages, and of the state that it shares with the other
messages to that chain.
-/

namespace BridgeRelay

/-- What a signer decides about a transaction. -/
structure TransactionOptions where
  nonce : UInt64
  gasLimit : UInt64
  price : GasPrice
  deriving DecidableEq

/-- A question to a destination chain. -/
inductive DestinationQuery where
  /-- the handler that the bridge has for a resource -/
  | handler (resource : ResourceId)
  /-- the record of a proposal -/
  | proposal (origin : DomainId) (nonce : DepositNonce) (dataHash : Hash)
  /-- whether a relayer's vote for a proposal is recorded -/
  | hasVoted (p : Proposal) (relayer : Address)
  /-- the next nonce of the signing account, pending transactions included -/
  | pendingNonce
  /-- the price that the node suggests -/
  | gasPrice
  /-- the base fee of the latest block, if the chain has one -/
  | baseFee
  /-- the tip that the node suggests -/
  | priorityFee
  /-- signs and broadcasts a call, which the node accepts with a hash -/
  | send (call : BridgeCall) (options : TransactionOptions)
  /-- whether a transaction succeeded, once it is mined -/
  | receipt (tx : Hash)
  deriving DecidableEq

/-- What a question to a destination chain is answered with. -/
abbrev DestinationQuery.Answer : DestinationQuery → Type
  | .handler _ => Except ChainError Address
  | .proposal .. => Except ChainError ProposalState
  | .hasVoted .. => Except ChainError Bool
  | .pendingNonce => Except ChainError UInt64
  | .gasPrice | .priorityFee => Except ChainError Wei
  | .baseFee => Except ChainError (Option Wei)
  | .send .. => Except ChainError Hash
  | .receipt _ => Except ChainError (Option Bool)

/-- The interface of a destination chain. -/
abbrev DestinationInterface : Interface := ⟨DestinationQuery, DestinationQuery.Answer⟩

/-- A request of a writer. -/
inductive WriterRequest where
  | chain (q : DestinationQuery)
  | host (r : HostRequest)
  /-- waits for the signing account and takes it, with the nonce that comes next, if that is known -/
  | takeNonce
  /-- gives the signing account back, with the nonce that comes next -/
  | giveNonce (next : Option UInt64)
  /-- waits until no other message is being written -/
  | enter
  /-- lets the next message in -/
  | leave

/-- What a writer's request is answered with. -/
abbrev WriterRequest.Answer : WriterRequest → Type
  | .chain q => q.Answer
  | .host r => r.Answer
  | .takeNonce => Option UInt64
  | .giveNonce _ | .enter | .leave => Unit

/-- The interface of a writer. -/
abbrev WriterInterface : Interface := ⟨WriterRequest, WriterRequest.Answer⟩

instance : Hosted WriterInterface := ⟨fun r => .ask (.host r) .done⟩

namespace Destination

/-- Asks the chain. -/
def query (q : DestinationQuery) : Program WriterInterface q.Answer := .ask (.chain q) .done

def takeNonce : Program WriterInterface (Option UInt64) := .ask .takeNonce .done

def giveNonce (next : Option UInt64) : Program WriterInterface Unit := .ask (.giveNonce next) .done

def enter : Program WriterInterface Unit := .ask .enter .done

def leave : Program WriterInterface Unit := .ask .leave .done

end Destination

end BridgeRelay
