import BridgeRelay.Devnet.Node
import BridgeRelay.Relay
import BridgeRelay.Simulation.Store

/-!
# The stage

Everything that a relay works with, in memory: chains, a store, counters, the channel of reports, the locks, and a
clock in whole milliseconds. Each request has an answer, or has to wait for another worker.
-/

namespace BridgeRelay.Simulation

open Devnet (Node)

/-! ## Requests -/

/-- What a scripted writer does with a message. -/
inductive Reply where
  | answer (result : Except DeliveryError Outcome)
  /-- sleeps first -/
  | later (delay : Duration) (reply : Reply)
  /-- signals stop first -/
  | afterStop (reply : Reply)

/-- Something that happens from outside. -/
inductive Happening where
  | change (chain : Nat) (c : Node.Change)
  | stop

/-- A request on the stage. -/
inductive StageRequest where
  | relay (r : RelayRequest)
  /-- hands a message to the scripted writer of a destination, if there is one -/
  | perform (destination : DomainId) (m : Message)
  /-- lets something happen -/
  | happen (h : Happening)

/-- What a request on the stage is answered with. -/
abbrev StageRequest.Answer : StageRequest → Type
  | .relay r => r.Answer
  | .perform .. => Option Reply
  | .happen _ => Unit

/-- The interface of the stage. -/
abbrev StageInterface : Interface := ⟨StageRequest, StageRequest.Answer⟩

instance : Hosted StageInterface := ⟨fun r => .ask (.relay (.host r)) .done⟩

/-! ## State -/

/-- A scripted writer: its replies, of which the last one repeats, and the place of the next one. -/
structure Performer where
  replies : List Reply
  place : Nat := 0

/-- The next reply. A writer without replies executes every message. -/
def Performer.reply (p : Performer) : Reply := p.replies[p.place]?.getD (.answer (.ok .executed))

/-- The writer after a reply. -/
def Performer.next (p : Performer) : Performer := { p with place := min (p.place + 1) (p.replies.length - 1) }

/-- The number of a worker. -/
abbrev Worker := Nat

/-- Something that was asked and answered. -/
inductive Event where
  | source (chain : Nat) (x : Exchange SourceInterface)
  | destination (chain : Nat) (x : Exchange DestinationInterface)
  | store (x : Exchange StoreInterface)
  /-- a message to a scripted writer, which gives the reply at a place in its script -/
  | performed (destination : DomainId) (m : Message) (place : Nat)

/-- The state that the messages to one destination share. -/
structure Desk where
  /-- who has the signing account -/
  signing : Option Worker := none
  nextNonce : Option UInt64 := none
  /-- who is writing a message -/
  writing : Option Worker := none

/-- The stage. -/
structure Stage where
  /-- milliseconds since the beginning -/
  now : Nat := 0
  stopping : Bool := false
  nodes : List Node := []
  store : FaultyStore := {}
  metrics : Metrics := {}
  desks : List Desk := []
  performers : Routes Performer := {}
  channel : List Report := []
  /-- listeners of whose end the supervisor has not heard -/
  ended : List Notice := []
  /-- how many listeners are running -/
  listeners : Nat := 0
  /-- what was asked, with the time, latest first -/
  trace : List (Nat × Event) := []
  /-- the fault that ended a worker -/
  fault : Option Duration.Fault := none

namespace Stage

/-- The stage after something was asked and answered. -/
def saw (s : Stage) (e : Event) : Stage := { s with trace := (s.now, e) :: s.trace }

/-- The node of a chain. -/
def node (s : Stage) (chain : Nat) : Node := s.nodes[chain]?.getD {}

/-- The desk of a chain. -/
def desk (s : Stage) (chain : Nat) : Desk := s.desks[chain]?.getD {}

/-- Changes the desk of a chain. -/
def setDesk (s : Stage) (chain : Nat) (d : Desk) : Stage := { s with desks := s.desks.set chain d }

/-! ## Answers -/

/-- What concerns the supervisor, if there is anything. -/
def notice? (s : Stage) : Option (Notice × Stage) :=
  match s.channel, s.ended with
  | r :: rs, _ => some (.report r, { s with channel := rs })
  | [], n :: ns => some (n, { s with ended := ns })
  | [], [] => if s.listeners = 0 then some (.allExited, s) else none

/-- Hands a message to a scripted writer. -/
def perform (s : Stage) (d : DomainId) (m : Message) : Option Reply × Stage :=
  match s.performers.find? d with
  | none => (none, s)
  | some p => (some p.reply, { s with performers := s.performers.set d p.next }.saw (.performed d m p.place))

/-- The stage after something happened from outside. -/
def happen (s : Stage) : Happening → Stage
  | .change chain c => { s with nodes := s.nodes.set chain ((s.node chain).apply c) }
  | .stop => { s with stopping := true }

/-- The answer to a request of a worker; nothing if the worker has to wait. Sleeping is left to the schedule. -/
def answer? (s : Stage) (w : Worker) : (r : StageRequest) → Option (r.Answer × Stage)
  | .relay (.host .now) => some (s.now * 1000000, s)
  | .relay (.host .stopping) => some (s.stopping, s)
  | .relay (.host (.record u)) => some ((), { s with metrics := s.metrics.record u })
  | .relay (.host (.sleep _)) | .relay (.host (.pause _)) | .relay (.host (.abort _)) => none
  | .relay (.source chain q) =>
      let (a, n) := (s.node chain).answerSource q
      some (a, ({ s with nodes := s.nodes.set chain n }).saw (.source chain ⟨q, a⟩))
  | .relay (.destination chain q) =>
      let (a, n) := (s.node chain).answerDestination q
      some (a, ({ s with nodes := s.nodes.set chain n }).saw (.destination chain ⟨q, a⟩))
  | .relay (.takeNonce chain) =>
      let d := s.desk chain
      if d.signing.isSome then none else some (d.nextNonce, s.setDesk chain { d with signing := some w })
  | .relay (.giveNonce chain nextNonce) =>
      some ((), s.setDesk chain { s.desk chain with signing := none, nextNonce })
  | .relay (.enter chain) =>
      let d := s.desk chain
      if d.writing.isSome then none else some ((), s.setDesk chain { d with writing := some w })
  | .relay (.leave chain) => some ((), s.setDesk chain { s.desk chain with writing := none })
  | .relay (.store r) =>
      let (a, store) := s.store.answer r
      some (a, ({ s with store }).saw (.store ⟨r, a⟩))
  | .relay (.report r) => some ((), { s with channel := s.channel ++ [r] })
  | .relay (.exit d result) =>
      some ((), { s with ended := s.ended ++ [.exited d result], listeners := s.listeners - 1 })
  | .relay .notice => s.notice?
  | .relay .leftover =>
      match s.channel with
      | r :: rs => some (some r, { s with channel := rs })
      | [] => some (none, s)
  | .perform d m => some (s.perform d m)
  | .happen h => some ((), s.happen h)

/-- The stage after a worker was aborted: what it had taken is given back. -/
def abandon (s : Stage) (w : Worker) (fault : Duration.Fault) : Stage :=
  let freed (holder : Option Worker) : Option Worker := if holder = some w then none else holder
  { s with
    desks := s.desks.map fun d => { d with signing := freed d.signing, writing := freed d.writing }
    ended := s.ended ++ [.crashed], listeners := s.listeners - 1, fault := some fault }

end Stage

end BridgeRelay.Simulation
