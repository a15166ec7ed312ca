import BridgeRelay.Address
import BridgeRelay.Handlers
import BridgeRelay.Payload.Codec
import BridgeRelay.Retry
import BridgeRelay.Source
import BridgeRelay.Window

/-!
# Listeners

A listener scans the confirmed blocks behind its checkpoint, hands one message per deposit to its destination in
the order of the chain, and only then moves the checkpoint to the end of the window. When the relayer stops
within a window, or a writer cannot reach its chain, the checkpoint stays and the window is scanned again.
-/

namespace BridgeRelay

/-- The settings of a listener. -/
structure Listener where
  domain : DomainId
  startBlock : Height := 0
  confirmations : UInt64
  /-- between two looks at a chain that has not moved -/
  pollInterval : Duration
  /-- begins at the start block whatever is stored -/
  freshStart : Bool := false
  /-- begins at the head of the chain -/
  latestBlock : Bool := false
  maxRange : Option UInt64 := none
  handlers : Handlers := {}
  backoff : RetryPolicy := {}

namespace Listener

open Source

/-- What became of a deposit, or of all deposits of a window. -/
inductive Delivery where
  /-- handed over, or dropped with a report -/
  | handled
  /-- left, because the relayer is stopping -/
  | stopped
  deriving DecidableEq

/-- What became of a look at the chain. -/
inductive Poll where
  /-- a window was delivered and the checkpoint moved to its end -/
  | advanced (checkpoint : Height)
  /-- there was no window -/
  | idle
  /-- the relayer is stopping, and the checkpoint stays -/
  | stopped
  deriving DecidableEq

/-- What a step gives unless it fails. -/
abbrev Result (α : Type) : Type := Except RelayError α

/-! ## Reads that do not give up -/

/-- One failure more, as far as the number can be told. -/
def oneMore (failures : Nat) : Nat := min (failures + 1) (UInt32.size - 1)

/-- The delay after a number of failures. -/
def delay (l : Listener) (failures : Nat) : Program ListenerInterface Duration :=
  Host.require (l.backoff.backoff failures)

/-- Reads until it succeeds, fails for good, or the relayer stops. -/
def insist (l : Listener) {α : Type} (q : Program ListenerInterface (Except ChainError α)) :
    Program ListenerInterface (Result α) :=
  Program.iterate 0 fun failures => do
    match ← q with
    | .ok a => return .inr (.ok a)
    | .error e =>
        let e := RelayError.ofChain e
        if e.isRetryable then
          if ← Host.stopping then return .inr (.error e)
          else
            Host.sleep (← l.delay failures)
            return .inl (oneMore failures)
        else return .inr (.error e)

/-! ## Deposits -/

/-- Reports an error of the listener itself. -/
def complain (l : Listener) (e : RelayError) : Program ListenerInterface Unit :=
  report ⟨l.domain, .listener, e⟩

/-- What is said of a log that is no deposit. -/
def undecodable (log : DepositLog) (f : Deposit.Fault) : RelayError :=
  let tx := match log.txHash with
    | some tx => s!"Some({Hex.encode tx.toList})"
    | none => "None"
  let index := match log.logIndex with
    | some index => s!"Some({index})"
    | none => "None"
  .malformedEvent s!"undecodable Deposit log tx={tx} index={index}: {f.message}"

/-- What is said of a deposit whose handler is not configured. -/
def unknownHandler (a : Address) (r : ResourceId) : RelayError :=
  .configuration s!"unknown handler {a.checksummed} for resource {r.text}"

/-- What is said of a deposit whose data is not what its handler emits. -/
def wrongLayout (d : Deposit) (t : TransferType) (f : Payload.Fault) : RelayError :=
  .malformedEvent s!"deposit {d.nonce} data does not match {t.text} layout: {f.message t}"

/-- The message of a deposit. -/
def message (l : Listener) (log : DepositLog) (d : Deposit) (p : Payload) : Message :=
  .ofPayload l.domain d.destination d.nonce d.resource p
    { blockNumber := log.blockNumber.getD 0, txHash := log.txHash, logIndex := log.logIndex
      handlerResponse := d.handlerResponse }

/-- Hands a message to its destination and judges the outcome: a writer that could not reach its chain leaves the
window to be scanned again, any other failure is reported and the message dropped. -/
def send (l : Listener) (m : Message) : Program ListenerInterface (Result Delivery) := do
  match ← route m.destination m with
  | .ok .interrupted => return .ok .stopped
  | .ok .awaitingThreshold =>
      Host.record (.messageRouted l.domain m.destination)
      report ⟨m.destination, .writer, .unfinishedProposal s!"{m.id.text} voted, still awaiting threshold"⟩
      return .ok .handled
  | .ok _ =>
      Host.record (.messageRouted l.domain m.destination)
      return .ok .handled
  | .error (.noWriter _) =>
      Host.record (.messageDropped l.domain "no_route")
      l.complain (.configuration (RouteError.noWriter m.destination).message)
      return .ok .handled
  | .error (.delivery e) =>
      let e := RelayError.ofDelivery e
      if e.isRetryable then
        report ⟨m.destination, .writer, e⟩
        return .error e
      else
        Host.record (.messageDropped l.domain e.kind)
        report ⟨m.destination, .writer, e⟩
        return .ok .handled

/-- Hands over the deposit of a log. -/
def handle (l : Listener) (log : DepositLog) : Program ListenerInterface (Result Delivery) := do
  match Deposit.ofLog log with
  | .error f => return .error (undecodable log f)
  | .ok d =>
      Host.record (.depositDetected l.domain)
      match ← l.insist (query (.handler d.resource)) with
      | .error e => return .error e
      | .ok handler => match l.handlers.find? handler with
        | none =>
            Host.record (.messageDropped l.domain "unknown_handler")
            l.complain (unknownHandler handler d.resource)
            return .ok .handled
        | some t => match Payload.decode t d.data with
          | .error f => return .error (wrongLayout d t f)
          | .ok p => l.send (l.message log d p)

/-- Hands over the deposits of a window in order, until one cannot be. -/
def handleAll (l : Listener) : List DepositLog → Program ListenerInterface (Result Delivery)
  | [] => return .ok .handled
  | log :: logs => do
      if ← Host.stopping then return .ok .stopped
      else match ← l.handle log with
        | .error e => return .error e
        | .ok .stopped => return .ok .stopped
        | .ok .handled => l.handleAll logs

/-! ## Windows -/

/-- Moves the checkpoint to the end of a window. -/
def commit (l : Listener) (last : Height) : Program ListenerInterface (Result Poll) := do
  match ← Checkpoint.put l.domain last with
  | .error e => return .error (.store e.message)
  | .ok () =>
      Host.record (.checkpoint l.domain last)
      return .ok (.advanced last)

/-- Delivers the deposits of a window. -/
def scan (l : Listener) (w : Window) : Program ListenerInterface (Result Poll) := do
  match ← query (.deposits w.first w.last) with
  | .error e => return .error (.ofChain e)
  | .ok logs =>
      match ← l.handleAll logs with
      | .error e => return .error e
      | .ok .stopped => return .ok .stopped
      | .ok .handled => l.commit w.last

/-- Looks at the chain and delivers the next window, if there is one. -/
def poll (l : Listener) (checkpoint : Height) : Program ListenerInterface (Result Poll) := do
  match ← query .head with
  | .error e => return .error (.ofChain e)
  | .ok head =>
      Host.record (.latestBlock l.domain head)
      match Window.next? head l.confirmations checkpoint l.maxRange with
      | none => return .ok .idle
      | some w => l.scan w

/-! ## The whole -/

/-- The checkpoint behind which the first window begins. -/
def start (l : Listener) : Program ListenerInterface (Result Height) := do
  let configured := Window.subHeight l.startBlock 1
  if l.latestBlock then
    match ← l.insist (query .head) with
    | .error e => return .error e
    | .ok head => return .ok (Window.subHeight head 1)
  else if l.freshStart then return .ok configured
  else
    match ← Checkpoint.get l.domain with
    | .error e => return .error (.store e.message)
    | .ok stored => return .ok (max stored configured)

/-- Reports the error at which the listener halts. -/
def halt (l : Listener) (e : RelayError) : Program ListenerInterface (Result Unit) := do
  l.complain e
  return .error e

/-- Where a listener is. -/
structure Position where
  checkpoint : Height
  /-- looks at the chain that failed in a row -/
  failures : Nat
  deriving DecidableEq

/-- One round: looks at the chain, and sleeps if there is nothing to do or the network fails. -/
def round (l : Listener) (p : Position) : Program ListenerInterface (Position ⊕ Result Unit) := do
  if ← Host.stopping then return .inr (.ok ())
  else match ← l.poll p.checkpoint with
    | .ok (.advanced checkpoint) => return .inl ⟨checkpoint, 0⟩
    | .ok .idle =>
        Host.pause l.pollInterval
        return .inl ⟨p.checkpoint, 0⟩
    | .ok .stopped => return .inl p
    | .error e =>
        if e.isRetryable then
          Host.pause (← l.delay p.failures)
          return .inl ⟨p.checkpoint, oneMore p.failures⟩
        else return .inr (← l.halt e)

/-- Watches the chain until the relayer stops or an error occurs that is fatal for the chain. -/
def run (l : Listener) : Program ListenerInterface (Result Unit) := do
  match ← l.start with
  | .error e => l.halt e
  | .ok checkpoint => Program.iterate ⟨checkpoint, 0⟩ l.round

end Listener

end BridgeRelay
