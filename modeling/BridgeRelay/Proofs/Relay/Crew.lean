import BridgeRelay.Proofs.Program.Pool
import BridgeRelay.Relay

/-!
# The crew of a relay

All workers of a relay in any interleaving, with what they share: the stop flag, the counters, the channel of reports and
the results of listeners that have ended. All else, chains, stores, locks and clocks, may give any answer, so what is
proved here holds for all of them. Each exchange is noted, with the stop flag as it was.
-/

namespace BridgeRelay

/-- Has nothing to do with what the workers of a relay share. -/
def RelayRequest.IsOutside : RelayRequest → Prop
  | .host .stopping | .host (.record _) | .report _ | .exit .. | .notice | .leftover => False
  | _ => True

namespace Relay

open Program

/-- The supervisor, or the listener at a place. -/
abbrev Worker (r : Relay) : Type := Option (Fin r.chains.length)

/-- An exchange of a worker, and whether stop was signalled. -/
structure Entry (r : Relay) where
  worker : r.Worker
  exchange : Exchange RelayInterface
  stopping : Bool

/-- What the workers share. -/
structure House (r : Relay) where
  stopping : Bool := false
  metrics : Metrics := {}
  channel : List Report := []
  /-- how many listeners are running -/
  running : Nat
  /-- results of which the supervisor has not heard -/
  ended : List (DomainId × Except RelayError Unit) := []
  /-- all exchanges, in order -/
  history : List (Entry r) := []

namespace House

variable {r : Relay}

/-- The house after an exchange is noted. -/
def note (s : House r) (e : Entry r) : House r := { s with history := s.history ++ [e] }

/-- The exchanges of a worker, in order. -/
def own (s : House r) (w : r.Worker) : List (Entry r) := s.history.filter (·.worker = w)

/-- How a request is answered, and the house after it. What concerns the supervisor it hears in any order: the first
report of the channel, the result of any listener that has ended, or that all have ended and been heard of. No listener
is aborted. -/
inductive Serves (s : House r) : Exchange RelayInterface → House r → Prop where
  | outside {x : Exchange RelayInterface} (h : x.request.IsOutside) : Serves s x s
  | stopping : Serves s ⟨.host .stopping, s.stopping⟩ s
  | record (u : Metrics.Update) : Serves s ⟨.host (.record u), ()⟩ { s with metrics := s.metrics.record u }
  | report (report : Report) : Serves s ⟨.report report, ()⟩ { s with channel := s.channel ++ [report] }
  | exit (d : DomainId) (result : Except RelayError Unit) :
      Serves s ⟨.exit d result, ()⟩ { s with ended := s.ended ++ [(d, result)], running := s.running - 1 }
  | received {report : Report} {rest : List Report} (h : s.channel = report :: rest) :
      Serves s ⟨.notice, .report report⟩ { s with channel := rest }
  | joined {d : DomainId} {result : Except RelayError Unit} {before after : List (DomainId × Except RelayError Unit)}
      (h : s.ended = before ++ (d, result) :: after) :
      Serves s ⟨.notice, .exited d result⟩ { s with ended := before ++ after }
  | deserted (running : s.running = 0) (ended : s.ended = []) : Serves s ⟨.notice, .allExited⟩ s
  | leftover {report : Report} {rest : List Report} (h : s.channel = report :: rest) :
      Serves s ⟨.leftover, some report⟩ { s with channel := rest }
  | drained (h : s.channel = []) : Serves s ⟨.leftover, none⟩ s

/-- The house for a worker. Stop may be signalled before any request, and stays signalled. -/
def world (w : r.Worker) : World RelayInterface (House r) where
  permits _ _ := True
  reply s x s' := ∃ stopping s₁, (s.stopping = true → stopping = true) ∧ { s with stopping }.Serves x s₁ ∧
    s' = s₁.note ⟨w, x, stopping⟩

end House

variable {r : Relay}

/-- The listener at a place. -/
abbrev listener (r : Relay) (i : Fin r.chains.length) : Listener := r.chains[i].listener

/-- What a worker does. -/
def work (r : Relay) : r.Worker → Program RelayInterface (List Halted)
  | none => supervise
  | some i => (r.listenerWorker i r.chains[i]).bind fun _ => .done []

/-- The workers of a relay in their house. -/
abbrev Crew (r : Relay) : Type 1 := Pool r.Worker RelayInterface (List Halted) (House r)

/-- The workers before they begin. -/
def opening (r : Relay) : Crew r := ⟨r.work, { running := r.chains.length }⟩

/-- One crew becomes another while its workers take turns and stop may be signalled. -/
abbrev Reaches : Crew r → Crew r → Prop := Pool.Reaches House.world

/-! ## Histories -/

variable {s s' : House r} {x : Exchange RelayInterface} {P P' : Crew r} {w : r.Worker}

theorem House.Serves.history_eq (h : s.Serves x s') : s'.history = s.history := by
  cases h <;> rfl

theorem House.Serves.stopping_eq (h : s.Serves x s') : s'.stopping = s.stopping := by
  cases h <;> rfl

@[simp] theorem House.own_note (e : Entry r) :
    (s.note e).own w = s.own w ++ if e.worker = w then [e] else [] := by
  simp only [own, note, List.filter_append]
  by_cases h : e.worker = w <;> simp [h]

/-- What every answer preserves holds of the house whenever the workers have taken turns. -/
theorem invariant_of_reaches {inv : House r → Prop} (start : inv P.state)
    (reply : ∀ w s x s', (House.world w).reply s x s' → inv s → inv s') (reached : Reaches P P') : inv P'.state := by
  induction reached with
  | refl => exact start
  | tail _ step ih =>
      cases step with
      | silent _ _ => exact ih
      | ask w _ answered => exact reply w _ _ _ answered ih

/-- What a step adds to the history of a worker, the worker runs. -/
theorem runs_of_step (step : Pool.Step House.world P P') (w : r.Worker) : ∃ t,
    P'.state.own w = P.state.own w ++ t ∧ (P.programs w).Runs (t.map Entry.exchange) (P'.programs w) := by
  cases step with
  | silent v hp =>
      refine ⟨[], (List.append_nil _).symm, ?_⟩
      by_cases same : w = v
      · subst same
        simpa using Runs.silent hp .stay
      · simpa [same] using Runs.stay
  | @ask v request next answer _ hp reply =>
      obtain ⟨stopping, s₁, -, serves, rfl⟩ := reply
      have kept : s₁.own w = P.state.own w := congrArg (List.filter _) serves.history_eq
      refine ⟨if v = w then [⟨v, ⟨request, answer⟩, stopping⟩] else [], by rw [House.own_note, kept], ?_⟩
      by_cases same : w = v
      · subst same
        simpa using Runs.ask hp .stay
      · simpa [same, Ne.symm same] using Runs.stay

/-- Each worker runs as its part of the history tells. -/
theorem runs_of_reaches (reached : Reaches P P') (w : r.Worker) : ∃ t,
    P'.state.own w = P.state.own w ++ t ∧ (P.programs w).Runs (t.map Entry.exchange) (P'.programs w) := by
  induction reached with
  | refl => exact ⟨[], (List.append_nil _).symm, .stay⟩
  | tail _ step ih =>
      obtain ⟨t, ht, run⟩ := ih
      obtain ⟨u, hu, run'⟩ := runs_of_step step w
      exact ⟨t ++ u, by rw [hu, ht, List.append_assoc], by simpa using run.trans run'⟩

theorem runs_own (reached : Reaches (opening r) P) (w : r.Worker) :
    (r.work w).Runs ((P.state.own w).map Entry.exchange) (P.programs w) := by
  obtain ⟨t, ht, run⟩ := runs_of_reaches reached w
  rw [ht]
  exact run

end Relay

end BridgeRelay
