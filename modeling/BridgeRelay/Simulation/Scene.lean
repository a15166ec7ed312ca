import BridgeRelay.Simulation.Schedule

/-!
# Scenes

What can be played on the stage: a signing account, a writer, a listener with scripted writers, a whole relay.
-/

namespace BridgeRelay.Simulation

/-! ## Programs on the stage -/

/-- A program of the relay on the stage. -/
def onStage {α : Type} (p : Program RelayInterface α) : Program StageInterface α :=
  Program.translate (I := RelayInterface) (J := StageInterface) (fun r => .ask (.relay r) .done) p

/-- What a scripted writer does with a message. -/
def act : Reply → Program StageInterface (Except RouteError Outcome)
  | .answer (.ok outcome) => return .ok outcome
  | .answer (.error e) => return .error (.delivery e)
  | .later delay reply => do
      Host.sleep delay
      act reply
  | .afterStop reply => do
      .ask (.happen .stop) .done
      act reply

/-- Hands a message to a scripted writer, if its destination has one. -/
def perform (d : DomainId) (m : Message) : Program StageInterface (Except RouteError Outcome) := do
  match ← (.ask (.perform d m) .done : Program StageInterface (Option Reply)) with
  | some reply => act reply
  | none => return .error (.noWriter d)

/-- A listener's request on the stage, where scripted writers take the messages. -/
def listening (chain : Nat) : (r : ListenerRequest) → Program StageInterface r.Answer
  | .chain q => .ask (.relay (.source chain q)) .done
  | .host r => .ask (.relay (.host r)) .done
  | .store r => .ask (.relay (.store r)) .done
  | .route d m => perform d m
  | .report r => .ask (.relay (.report r)) .done

/-- A listener's program on the stage. -/
def listenerOnStage (chain : Nat) {α : Type} (p : Program ListenerInterface α) : Program StageInterface α :=
  Program.translate (I := ListenerInterface) (listening chain) p

/-- A writer's program on the stage. -/
def writerOnStage (chain : Nat) {α : Type} (p : Program WriterInterface α) : Program StageInterface α :=
  onStage (Writer.place chain p)

/-! ## Playing -/

/-- The number of steps after which a scene is broken off. -/
def patience : Nat := 10000000

/-- What happens at a time, which counts from the beginning of the scene. -/
structure Cue where
  millis : Nat
  happening : Happening

/-- The worker that lets something happen. -/
def Cue.worker (c : Cue) : Program StageInterface Unit := do
  Host.sleep (.ofMillis c.millis)
  .ask (.happen c.happening) .done

namespace Stage

variable {τ : Type}

/-- Plays a scene until the first `wanted` workers have ended, and gives what they result in. -/
def playTasks (s : Stage) (wanted : Nat) (workers : List (Program StageInterface (Option τ))) :
    List (Option τ) × Stage :=
  let wanted := List.range wanted
  let schedule : Schedule (Option τ) :=
    { stage := s, ready := workers.zipIdx.map fun (p, w) => ⟨w, p⟩, wanted }
  let final := schedule.run patience
  (wanted.map fun w => (final.result? w).join, final.stage)

/-- A worker whose result nobody wants. -/
def extra {α : Type} (p : Program StageInterface α) : Program StageInterface (Option τ) := p.bind fun _ => .done none

/-- A worker whose result is wanted. -/
def leading (p : Program StageInterface τ) : Program StageInterface (Option τ) := p.bind fun a => .done (some a)

/-- Plays programs side by side until all have ended. -/
def playAll (s : Stage) (ps : List (Program StageInterface τ)) : List (Option τ) × Stage :=
  s.playTasks ps.length (ps.map leading)

/-- Plays one program until it has ended. What has not happened by then does not happen. -/
def play (s : Stage) (cues : List Cue) (p : Program StageInterface τ) : Option τ × Stage :=
  let (results, s) := s.playTasks 1 (leading p :: cues.map fun c => extra c.worker)
  (results.head?.join, s)

/-- The stage before a relay begins: nothing is counted, reported or taken. -/
def forRelay (s : Stage) (r : Relay) : Stage :=
  { s with
    stopping := false, metrics := {}, channel := [], ended := [], fault := none
    desks := r.chains.map fun _ => {}, listeners := r.chains.length }

/-- Plays a relay until its supervisor has ended and every cue has happened, and gives the chains that halted. -/
def playRelay (s : Stage) (cues : List Cue) (r : Relay) : List Halted × Stage :=
  let others : List (Program StageInterface (Option (List Halted))) :=
    cues.map (fun c => extra c.worker) ++ r.listenerWorkers.map fun p => extra (onStage p)
  let (results, s) :=
    (s.forRelay r).playTasks (1 + cues.length) (leading (onStage Relay.supervise) :: others)
  (results.head?.join.getD [], s)

end Stage

end BridgeRelay.Simulation
