import BridgeRelay.Listener
import BridgeRelay.Routes
import BridgeRelay.Writer

/-!
# The relay

One listener and one writer for each chain. All listeners share the writers, the store and the channel of reports,
and a supervisor counts the reports until every listener has ended.
-/

namespace BridgeRelay

/-- A chain with the settings of its listener and of its writer. -/
structure RelayChain where
  listener : Listener
  writer : Writer

/-- The chains of a relay. A chain is referred to by its place. -/
structure Relay where
  chains : List RelayChain := []

/-- A chain whose listener ended at a fatal error. -/
structure Halted where
  domain : DomainId
  error : RelayError
  deriving DecidableEq

/-! ## Requests -/

/-- What the supervisor waits for. -/
inductive Notice where
  | report (r : Report)
  | exited (domain : DomainId) (result : Except RelayError Unit)
  /-- a listener was aborted -/
  | crashed
  /-- there is no listener left -/
  | allExited

/-- A request of any worker of the relay. -/
inductive RelayRequest where
  | host (r : HostRequest)
  | source (chain : Nat) (q : SourceQuery)
  | destination (chain : Nat) (q : DestinationQuery)
  | takeNonce (chain : Nat)
  | giveNonce (chain : Nat) (next : Option UInt64)
  | enter (chain : Nat)
  | leave (chain : Nat)
  | store (r : StoreRequest)
  | report (r : Report)
  /-- tells the supervisor that a listener has ended -/
  | exit (domain : DomainId) (result : Except RelayError Unit)
  /-- waits for something that concerns the supervisor -/
  | notice
  /-- takes a report off the channel, if there is one -/
  | leftover

/-- What a request is answered with. -/
abbrev RelayRequest.Answer : RelayRequest → Type
  | .host r => r.Answer
  | .source _ q => q.Answer
  | .destination _ q => q.Answer
  | .takeNonce _ => Option UInt64
  | .store r => r.Answer
  | .notice => Notice
  | .leftover => Option Report
  | .giveNonce .. | .enter _ | .leave _ | .report _ | .exit .. => Unit

/-- The interface of the relay. -/
abbrev RelayInterface : Interface := ⟨RelayRequest, RelayRequest.Answer⟩

instance : Hosted RelayInterface := ⟨fun r => .ask (.host r) .done⟩

/-! ## Workers -/

/-- The request that a writer's request is, for the destination at a place. -/
def Writer.relayed (chain : Nat) : (r : WriterRequest) → Program RelayInterface r.Answer
  | .chain q => .ask (.destination chain q) .done
  | .host r => .ask (.host r) .done
  | .takeNonce => .ask (.takeNonce chain) .done
  | .giveNonce next => .ask (.giveNonce chain next) .done
  | .enter => .ask (.enter chain) .done
  | .leave => .ask (.leave chain) .done

/-- A writer's program for the destination at a place. -/
def Writer.place (chain : Nat) {α : Type} (p : Program WriterInterface α) : Program RelayInterface α :=
  Program.translate (I := WriterInterface) (Writer.relayed chain) p

/-- The request that a listener's request is, for the source at a place. Routing is a program of its own. -/
def Listener.relayed (chain : Nat)
    (route : DomainId → Message → Program RelayInterface (Except RouteError Outcome)) :
    (r : ListenerRequest) → Program RelayInterface r.Answer
  | .chain q => .ask (.source chain q) .done
  | .host r => .ask (.host r) .done
  | .store r => .ask (.store r) .done
  | .route d m => route d m
  | .report r => .ask (.report r) .done

/-- A listener's program for the source at a place. -/
def Listener.place (chain : Nat)
    (route : DomainId → Message → Program RelayInterface (Except RouteError Outcome)) {α : Type}
    (p : Program ListenerInterface α) : Program RelayInterface α :=
  Program.translate (I := ListenerInterface) (Listener.relayed chain route) p

namespace Relay

/-- Registers the writers from a place on. -/
def register (routes : Routes (Nat × Writer)) (place : Nat) : List RelayChain → Routes (Nat × Writer)
  | [] => routes
  | c :: cs => register (routes.set c.writer.domain (place, c.writer)) (place + 1) cs

/-- The writers with their places. -/
def routes (r : Relay) : Routes (Nat × Writer) := register {} 0 r.chains

/-- Writes a message to its destination, if that has a writer. -/
def route (routes : Routes (Nat × Writer)) (d : DomainId) (m : Message) :
    Program RelayInterface (Except RouteError Outcome) :=
  match routes.find? d with
  | none => return .error (.noWriter d)
  | some (place, w) => do
      match ← Writer.place place (w.write m) with
      | .ok outcome => return .ok outcome
      | .error e => return .error (.delivery e)

/-- The worker that runs the listener at a place and says when it has ended. -/
def listenerWorker (r : Relay) (place : Nat) (c : RelayChain) : Program RelayInterface Unit := do
  let result ← Listener.place place (route r.routes) c.listener.run
  .ask (.exit c.listener.domain result) .done

/-- The workers of all listeners. -/
def listenerWorkers (r : Relay) : List (Program RelayInterface Unit) :=
  r.chains.zipIdx.map fun (c, place) => r.listenerWorker place c

/-! ## Supervisor -/

/-- Counts a report. -/
def count (r : Report) : Program RelayInterface Unit := Host.record (.error r.domain r.error.kind)

/-- Counts reports until all listeners have ended, and gives those that halted. -/
def attend : Program RelayInterface (List Halted) :=
  Program.iterate [] fun halted => do
    match ← (.ask .notice .done : Program RelayInterface Notice) with
    | .report r =>
        count r
        return .inl halted
    | .exited d (.error e) => return .inl (halted ++ [⟨d, e⟩])
    | .exited _ (.ok ()) | .crashed => return .inl halted
    | .allExited => return .inr halted

/-- Counts the reports that are left. -/
def countLeftovers : Program RelayInterface Unit :=
  Program.iterate () fun _ => do
    match ← (.ask .leftover .done : Program RelayInterface (Option Report)) with
    | some r =>
        count r
        return .inl ()
    | none => return .inr ()

/-- Sees the listeners to their ends, and gives those that halted. -/
def supervise : Program RelayInterface (List Halted) := do
  Host.record (.up 1)
  let halted ← attend
  countLeftovers
  Host.record (.up 0)
  return halted

end Relay

end BridgeRelay
