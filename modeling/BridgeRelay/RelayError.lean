import BridgeRelay.Delivery

/-!
# Errors of the relay

The kinds of errors by which the relay decides what to retry, what to report and when a chain has to halt, and
the channel on which they are reported.
-/

namespace BridgeRelay

/-- What went wrong while a deposit was relayed. -/
inductive RelayError where
  | transientNetwork (text : String)
  | configuration (text : String)
  | encoding (e : Payload.TypeMismatch)
  | exhaustedRetries (attempts : Nat) (lastError : String)
  | store (text : String)
  | malformedEvent (text : String)
  | unfinishedProposal (text : String)
  deriving DecidableEq

namespace RelayError

/-- The text of the error. -/
def message : RelayError → String
  | transientNetwork s => s!"transient network error: {s}"
  | configuration s => s!"configuration error: {s}"
  | encoding e => s!"encoding error: {e.message}"
  | exhaustedRetries attempts lastError => s!"retries exhausted after {attempts} attempts: {lastError}"
  | store s => s!"block store error: {s}"
  | malformedEvent s => s!"malformed event: {s}"
  | unfinishedProposal s => s!"proposal not finalized: {s}"

/-- The label of the error on counters. -/
def kind : RelayError → String
  | transientNetwork _ => "transient_network"
  | configuration _ => "configuration"
  | encoding _ => "encoding"
  | exhaustedRetries .. => "exhausted_retries"
  | store _ => "store"
  | malformedEvent _ => "malformed_event"
  | unfinishedProposal _ => "unfinished_proposal"

/-- Whether trying again as it is can help: only failures of the network pass. -/
def isRetryable : RelayError → Bool
  | transientNetwork _ => true
  | _ => false

/-- Whether the listener of the chain has to halt. -/
def isFatal : RelayError → Bool
  | store _ | malformedEvent _ => true
  | _ => false

/-- What a source chain's failure means. A view that reverts belongs to another contract than expected. -/
def ofChain : ChainError → RelayError
  | .rpc s | .timeout s => transientNetwork s
  | .reverted s | .invalid s => malformedEvent s

/-- What a failed delivery means. -/
def ofDelivery : DeliveryError → RelayError
  | .encoding e => encoding e
  | e@(.unknownResource _) => configuration e.message
  | .transaction (.exhausted _ attempts lastError) => exhaustedRetries attempts lastError
  | .transaction (.rejected call reason) => exhaustedRetries 1 s!"{call.name} rejected: {reason}"
  | .read (.rpc s) | .read (.timeout s) => transientNetwork s
  | .read e => configuration e.message

end RelayError

/-! ## Reports -/

/-- Which worker raised an error. -/
inductive Component where
  | listener
  | writer
  deriving DecidableEq, Repr

/-- The word for a component. -/
def Component.text : Component → String
  | .listener => "listener"
  | .writer => "writer"

/-- An error on the channel. -/
structure Report where
  domain : DomainId
  component : Component
  error : RelayError
  deriving DecidableEq

/-- The channel of reports: what is queued, or nothing once the consumer is gone. -/
structure ReportChannel where
  queue : Option (List Report) := some []
  deriving DecidableEq

namespace ReportChannel

/-- Queues a report. It is dropped if there is no consumer. -/
def send (c : ReportChannel) (r : Report) : ReportChannel := ⟨c.queue.map (· ++ [r])⟩

/-- Takes all that is queued; nothing if the consumer is gone. -/
def drain (c : ReportChannel) : Option (List Report) × ReportChannel := (c.queue, ⟨c.queue.map fun _ => []⟩)

/-- Drops the consumer. -/
def close (_ : ReportChannel) : ReportChannel := ⟨none⟩

end ReportChannel

end BridgeRelay
