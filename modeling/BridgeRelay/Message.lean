import BridgeRelay.Chain
import BridgeRelay.Payload
import BridgeRelay.Resource

/-!
# Messages

What a listener makes of a deposit and a writer brings to its destination.
-/

namespace BridgeRelay

/-- Where on the source chain a message came from. -/
structure MessageMetadata where
  blockNumber : Height := 0
  txHash : Option Hash := none
  logIndex : Option UInt64 := none
  handlerResponse : Bytes := []
  deriving DecidableEq, Inhabited

/-- The identity of a message. -/
structure MessageId where
  source : DomainId
  destination : DomainId
  nonce : DepositNonce
  deriving DecidableEq

/-- The text of an identity, such as `1->2#7`. -/
def MessageId.text (id : MessageId) : String := s!"{id.source}->{id.destination}#{id.nonce}"

/-- A transfer on its way from a source to a destination. -/
structure Message where
  source : DomainId
  destination : DomainId
  nonce : DepositNonce
  resource : ResourceId
  transferType : TransferType
  payload : Payload
  metadata : MessageMetadata
  deriving DecidableEq, Inhabited

namespace Message

/-- The message whose declared kind of transfer is that of its payload. -/
def ofPayload (source destination : DomainId) (nonce : DepositNonce) (resource : ResourceId)
    (payload : Payload) (metadata : MessageMetadata) : Message :=
  { source, destination, nonce, resource, transferType := payload.transferType, payload, metadata }

/-- Source, destination and nonce. -/
def id (m : Message) : MessageId := ⟨m.source, m.destination, m.nonce⟩

end Message

end BridgeRelay
