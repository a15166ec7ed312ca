import BridgeRelay.Simulation.Stage

/-!
# The schedule

Runs workers on the stage, one at a time. A worker goes on until it sleeps or has to wait. When all do, the clock
jumps to the next moment at which one wakes.
-/

namespace BridgeRelay.Simulation

/-- A worker with what it has yet to do. -/
structure Task (τ : Type) : Type 1 where
  worker : Worker
  program : Program StageInterface τ

/-- A worker that sleeps. -/
structure Sleeper (τ : Type) : Type 1 where
  wake : Nat
  /-- whether stop wakes it -/
  light : Bool
  task : Task τ

/-- The workers on the stage. -/
structure Schedule (τ : Type) : Type 1 where
  stage : Stage
  /-- in the order in which they go on -/
  ready : List (Task τ)
  /-- waiting for an answer, the longest first -/
  waiting : List (Task τ) := []
  /-- asleep, by the time of waking and then by the time of falling asleep -/
  asleep : List (Sleeper τ) := []
  /-- the workers for whose ends the schedule runs -/
  wanted : List Worker
  results : List (Worker × τ) := []

namespace Schedule

variable {τ : Type}

/-- Lets a worker go on before the others. -/
def goOn (s : Schedule τ) (w : Worker) (p : Program StageInterface τ) : Schedule τ :=
  { s with ready := ⟨w, p⟩ :: s.ready }

/-- Puts a sleeper behind those that wake no later. -/
def insertSleeper (x : Sleeper τ) : List (Sleeper τ) → List (Sleeper τ)
  | [] => [x]
  | y :: ys => if y.wake ≤ x.wake then y :: insertSleeper x ys else x :: y :: ys

/-- Lets a worker sleep until the first whole millisecond at which the time is over. -/
def sleep (s : Schedule τ) (w : Worker) (d : Duration) (light : Bool) (p : Program StageInterface τ) :
    Schedule τ :=
  if d.ceilMillis = 0 then s.goOn w p
  else { s with asleep := insertSleeper ⟨s.stage.now + d.ceilMillis, light, ⟨w, p⟩⟩ s.asleep }

/-- Wakes those that stop wakes. -/
def wakeLight (s : Schedule τ) : Schedule τ :=
  let (light, deep) := s.asleep.partition fun x => x.light
  { s with ready := s.ready ++ light.map fun x => x.task, asleep := deep }

/-- Answers those that need not wait any longer. -/
def answerWaiting (stage : Stage) : List (Task τ) → Stage × List (Task τ) × List (Task τ)
  | [] => (stage, [], [])
  | t :: ts =>
      match t.program with
      | .ask r next =>
          match stage.answer? t.worker r with
          | some (a, stage) =>
              let (stage, freed, waiting) := answerWaiting stage ts
              (stage, ⟨t.worker, next a⟩ :: freed, waiting)
          | none =>
              let (stage, freed, waiting) := answerWaiting stage ts
              (stage, freed, t :: waiting)
      | _ =>
          let (stage, freed, waiting) := answerWaiting stage ts
          (stage, t :: freed, waiting)

/-- Lets those go on that need not wait any longer. -/
def release (s : Schedule τ) : Schedule τ :=
  let (stage, freed, waiting) := answerWaiting s.stage s.waiting
  { s with stage, ready := s.ready ++ freed, waiting }

/-- Carries out a request of a worker. -/
def carryOut (s : Schedule τ) (w : Worker) :
    (r : StageRequest) → (r.Answer → Program StageInterface τ) → Schedule τ
  | .relay (.host (.sleep d)), next => s.sleep w d false (next ())
  | .relay (.host (.pause d)), next =>
      if s.stage.stopping then s.goOn w (next ()) else s.sleep w d true (next ())
  | .relay (.host (.abort fault)), _ => { s with stage := s.stage.abandon w fault }.release
  | .happen .stop, next => { s with stage := s.stage.happen .stop }.wakeLight.goOn w (next ())
  | r, next =>
      match s.stage.answer? w r with
      | some (a, stage) => { s with stage }.release.goOn w (next a)
      | none => { s with waiting := s.waiting ++ [⟨w, .ask r next⟩] }

/-- Lets a worker take one step. -/
def advance (s : Schedule τ) (t : Task τ) : Schedule τ :=
  match t.program.head with
  | .done a => { s with results := (t.worker, a) :: s.results }
  | .silent p => s.goOn t.worker p
  | .ask r next => s.carryOut t.worker r next

/-- Wakes those whose time has come. -/
def wakeDue (s : Schedule τ) : Schedule τ :=
  let (due, later) := s.asleep.partition fun x => x.wake ≤ s.stage.now
  { s with ready := s.ready ++ due.map fun x => x.task, asleep := later }

/-- Lets time pass until a worker wakes; nothing if none is asleep. -/
def elapse (s : Schedule τ) : Option (Schedule τ) :=
  match s.asleep with
  | [] => none
  | x :: _ => some { s with stage := { s.stage with now := max s.stage.now x.wake } }.wakeDue

/-- One step of the first worker that is ready, or the passing of time. -/
def step (s : Schedule τ) : Option (Schedule τ) :=
  match s.ready with
  | t :: ready => some ({ s with ready }.advance t)
  | [] => s.elapse

/-- Whether the workers for whose ends the schedule runs have all ended. -/
def finished (s : Schedule τ) : Bool := s.wanted.all fun w => s.results.any fun r => r.1 = w

/-- Runs until the wanted workers have ended, nothing more can happen, or `fuel` steps are taken. -/
def run : (fuel : Nat) → Schedule τ → Schedule τ
  | 0, s => s
  | fuel + 1, s =>
      if s.finished then s
      else match s.step with
        | some s => run fuel s
        | none => s

/-- The result of a worker that has ended. -/
def result? (s : Schedule τ) (w : Worker) : Option τ := s.results.lookup w

end Schedule

end BridgeRelay.Simulation
