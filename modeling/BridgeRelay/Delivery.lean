import BridgeRelay.BridgeCall
import BridgeRelay.Chain
import BridgeRelay.Payload.Codec

/-!
# Deliveries

How the delivery of a message to its destination ends.
-/

namespace BridgeRelay

/-- Where a message stands when its writer is done with it. -/
inductive Outcome where
  /-- an execution of this relayer was mined -/
  | executed
  /-- the proposal was executed or cancelled before -/
  | alreadyFinal (status : ProposalStatus)
  /-- voted, but too few others did while the writer watched -/
  | awaitingThreshold
  /-- the relayer is stopping -/
  | interrupted
  deriving DecidableEq, Repr

namespace Outcome

def all : List Outcome :=
  [executed, alreadyFinal .executed, alreadyFinal .cancelled, awaitingThreshold, interrupted]

/-- The word for an outcome. -/
def text : Outcome → String
  | executed => "executed"
  | alreadyFinal s => s!"already_final:{s.text}"
  | awaitingThreshold => "awaiting_threshold"
  | interrupted => "interrupted"

end Outcome

/-- How a call ends that needed no further attempt. -/
inductive Submission where
  | confirmed (tx : Hash)
  | alreadyProcessed
  deriving DecidableEq

/-- Why a call was given up. -/
inductive TransactionError where
  | exhausted (call : CallKind) (attempts : Nat) (lastError : String)
  | rejected (call : CallKind) (reason : String)
  deriving DecidableEq, Repr

/-- The text of the failure. -/
def TransactionError.message : TransactionError → String
  | .exhausted call attempts lastError => s!"{call.name} failed after {attempts} attempts: {lastError}"
  | .rejected call reason => s!"{call.name} rejected: {reason}"

/-- Why a message was not delivered. -/
inductive DeliveryError where
  | encoding (e : Payload.TypeMismatch)
  | unknownResource (resource : ResourceId)
  | transaction (e : TransactionError)
  | read (e : ChainError)
  deriving DecidableEq

namespace DeliveryError

/-- The text of the failure. -/
def message : DeliveryError → String
  | encoding e => e.message
  | unknownResource r => s!"no handler registered for resource {r.text}"
  | transaction e => e.message
  | read e => s!"bridge read failed: {e.message}"

/-- The word for the kind of failure. -/
def kind : DeliveryError → String
  | encoding _ => "encoding"
  | unknownResource _ => "unknown_resource"
  | transaction (.exhausted ..) => "exhausted"
  | transaction (.rejected ..) => "rejected"
  | read _ => "read"

end DeliveryError

/-- Why a message was not routed to completion. -/
inductive RouteError where
  | noWriter (destination : DomainId)
  | delivery (e : DeliveryError)
  deriving DecidableEq

/-- The text of the failure. -/
def RouteError.message : RouteError → String
  | .noWriter d => s!"no writer registered for domain {d}"
  | .delivery e => e.message

end BridgeRelay
