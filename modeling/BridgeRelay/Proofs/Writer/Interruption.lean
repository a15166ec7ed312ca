import BridgeRelay.Proofs.Writer.Inbox
import BridgeRelay.Proofs.Writer.Outcomes

/-!
# Interrupted writes

A write is interrupted only when it sees the stop flag, before it begins or while it watches its proposal. It has executed
nothing then.
-/

namespace BridgeRelay.Writer

open Program Destination

variable {w : Writer} {m : Message} {p : Proposal} {t u : Trace} {x : Exchange WriterInterface}

/-! ## The turn -/

/-- A write waits for its turn once, before anything else. -/
theorem enter_first {q : Program WriterInterface (Result Outcome)} (run : (w.write m).Runs (t ++ x :: u) q)
    (entered : x.request = .enter) : t = [] := by
  have turn : (Host.stopping >>= fun stopping =>
      if stopping then pure (.ok .interrupted) else w.deliver m : Program WriterInterface (Result Outcome)).Asks
        (fun r : WriterRequest => r ≠ .enter) := by
    refine Asks.bind ⟨nofun, fun _ => trivial⟩ fun stopping => ?_
    cases stopping with
    | true => trivial
    | false => exact asks_deliver.mono fun _ inner entered => by cases (entered ▸ inner : WriterRequest.enter.IsInner)
  cases t with
  | nil => rfl
  | cons y t =>
      cases run with
      | silent hp _ => cases hp
      | ask hp rest =>
          cases hp
          have behind : _ := turn.bind (f := fun result => leave >>= fun _ => pure result) fun _ => ⟨nofun, fun _ => trivial⟩
          exact absurd entered (behind.runs rest x (by simp))

/-- A write whose turn comes while it would see the stop flag asks for nothing more, and is interrupted. -/
theorem stopped_turn {q : Program WriterInterface (Result Outcome)} (run : (w.write m).Runs (⟨.enter, ()⟩ :: u) q)
    (stopping : ∀ b, ⟨.host .stopping, b⟩ ∈ u → b = true) :
    ∃ v, u ++ v = [⟨.host .stopping, true⟩, ⟨.leave, ()⟩] ∧ q.Runs v (done (.ok .interrupted)) := by
  cases run with
  | silent hp _ => cases hp
  | ask hp rest =>
      cases hp
      cases rest with
      | silent hp _ => cases hp
      | stay => exact ⟨_, rfl, .ask rfl (.ask rfl .stay)⟩
      | ask hp rest =>
          cases hp
          obtain rfl := stopping _ (List.mem_cons_self ..)
          cases rest with
          | silent hp _ => cases hp
          | stay => exact ⟨_, rfl, .ask rfl .stay⟩
          | ask hp rest =>
              cases hp
              obtain ⟨rfl, rfl⟩ := rest.of_done
              exact ⟨[], rfl, .stay⟩

/-! ## Interruption -/

/-- Broadcasts the execution of a proposal. -/
def Executes : WriterRequest → Prop
  | .chain (.send call _) => call.kind = .execute
  | _ => False

theorem not_executes_of_inspects {r : WriterRequest} (h : Inspects p r) : ¬ Executes r := by
  rcases r with (_ | _ | _ | _ | _ | _ | _ | _ | _) | _ | _ | _ | _ | _
  all_goals first | exact h.elim | exact id

theorem not_executes_of_vote {r : WriterRequest} (h : Signer.OfSubmission (.vote p) r) : ¬ Executes r := by
  rcases r with (_ | _ | _ | _ | _ | _ | _ | ⟨call, o⟩ | _) | _ | _ | _ | _ | _
  case chain.send =>
    cases (h : call = _)
    nofun
  all_goals exact id

theorem unexecuted_ensureVote : (w.ensureVote p).Asks fun r => ¬ Executes r := by
  refine Asks.bind (asks_readVote.mono fun _ => not_executes_of_inspects) ?_
  rintro (e | _ | _)
  · trivial
  · refine Asks.bind (Signer.asks_submit.mono fun _ => not_executes_of_vote) ?_
    rintro (e | tx | _)
    · exact asks_afterFailedVote.mono fun _ => not_executes_of_inspects
    · exact ⟨id, fun _ => trivial⟩
    · trivial
  · trivial

/-- Stop was seen, and nothing was executed. -/
structure Interrupted (t : Trace) : Prop where
  seen : ⟨.host .stopping, true⟩ ∈ t
  unexecuted : ∀ x ∈ t, ¬ Executes x.request

theorem Interrupted.after (h : Interrupted t) (hu : ∀ x ∈ u, ¬ Executes x.request) : Interrupted (u ++ t) where
  seen := List.mem_append_right u h.seen
  unexecuted x hx := (List.mem_append.mp hx).elim (hu x) (h.unexecuted x)

theorem not_interrupted_execute : ¬ (w.execute p).Runs t (done (.ok .interrupted)) := by
  intro run
  obtain ⟨e | tx | _, u, v, rfl, -, hv⟩ := run.of_bind_done
  · obtain ⟨_, -, ⟨-, h⟩ | ⟨-, -, h⟩⟩ := lastRead_settle hv <;> cases h
  · obtain ⟨_, v, v', rfl, -, hv⟩ := hv.of_bind_done
    cases hv.of_done.2
  · obtain ⟨_, -, ⟨-, h⟩ | ⟨-, -, h⟩⟩ := lastRead_settle hv <;> cases h

theorem not_interrupted_afterFailedVote {failure : TransactionError} :
    ¬ (w.afterFailedVote p failure).Runs t (done (.ok (some .interrupted))) := by
  intro run
  obtain ⟨e | state, u, v, rfl, -, hv⟩ := run.of_bind_done
  · cases hv.of_done.2
  · dsimp only at hv
    split at hv
    · cases hv.of_done.2
    · split at hv
      · cases hv.of_done.2
      · obtain ⟨e | _ | _, u', v', rfl, -, hv⟩ := hv.of_bind_done <;> cases hv.of_done.2

theorem not_interrupted_ensureVote : ¬ (w.ensureVote p).Runs t (done (.ok (some .interrupted))) := by
  intro run
  obtain ⟨e | _ | _, u, v, rfl, -, hv⟩ := run.of_bind_done
  · cases hv.of_done.2
  · obtain ⟨e | tx | _, u, v, rfl, -, hv⟩ := hv.of_bind_done
    · exact not_interrupted_afterFailedVote hv
    · obtain ⟨_, v, v', rfl, -, hv⟩ := hv.of_bind_done
      cases hv.of_done.2
    · cases hv.of_done.2
  · cases hv.of_done.2

theorem interrupted_watch {left : Nat} (run : (w.watch p left).Runs t (done (.ok .interrupted))) : Interrupted t := by
  induction left generalizing t with
  | zero => cases run.of_done.2
  | succ left ih =>
      obtain ⟨stopping, u, v, rfl, hu, hv⟩ := run.of_bind_done
      have looked := hu.of_request
      subst looked
      cases stopping with
      | true =>
          obtain ⟨rfl, -⟩ := hv.of_done
          exact ⟨List.mem_singleton.mpr rfl, fun x hx => List.mem_singleton.mp hx ▸ id⟩
      | false =>
          refine Interrupted.after ?_ fun x hx => List.mem_singleton.mp hx ▸ id
          obtain ⟨e | ⟨_ | _ | _ | _ | _, votes, block⟩, u', v', rfl, hu', hv⟩ := hv.of_bind_done
          case ok.passed => exact (not_interrupted_execute hv).elim
          case ok.inactive | ok.active =>
            have quiet := (asks_readState (w := w) (p := p)).runs hu'
            obtain ⟨_, paused, v, rfl, hp, watched⟩ := hv.of_bind_done
            refine ((ih watched).after ?_).after fun x hx => not_executes_of_inspects (quiet x hx)
            exact fun x hx => List.mem_singleton.mp (hp.of_request ▸ hx) ▸ id
          all_goals cases hv.of_done.2

theorem interrupted_advance (run : (w.advance p).Runs t (done (.ok .interrupted))) : Interrupted t := by
  obtain ⟨e | ⟨_ | _ | _ | _ | _, votes, block⟩, u, v, rfl, hu, hv⟩ := run.of_bind_done
  case ok.passed => exact (not_interrupted_execute hv).elim
  case ok.inactive | ok.active =>
    have quiet := (asks_readState (w := w) (p := p)).runs hu
    refine Interrupted.after ?_ fun x hx => not_executes_of_inspects (quiet x hx)
    obtain ⟨e | _ | outcome, u', v', rfl, hu', hv⟩ := hv.of_bind_done
    · cases hv.of_done.2
    · exact (interrupted_watch hv).after (unexecuted_ensureVote.runs hu')
    · cases hv.of_done.2
      exact (not_interrupted_ensureVote hu').elim
  all_goals cases hv.of_done.2

theorem interrupted_deliver (run : (w.deliver m).Runs t (done (.ok .interrupted))) : Interrupted t := by
  unfold deliver at run
  cases hd : Payload.encode m.transferType m.payload with
  | error e =>
      rw [hd] at run
      cases run.of_done.2
  | ok data =>
      rw [hd] at run
      obtain ⟨e | handler, u, v, rfl, hu, hv⟩ := run.of_bind_done
      · cases hv.of_done.2
      · dsimp only at hv
        split at hv
        · cases hv.of_done.2
        · have reads : (w.read (query (.handler m.resource))).Asks fun r => ¬ Executes r :=
            asks_read (fun _ => id) ⟨id, fun _ => trivial⟩
          exact (interrupted_advance hv).after (reads.runs hu)

/-- A write is interrupted only after it saw the stop flag, and then it executed nothing. -/
theorem interrupted_write (run : (w.write m).Runs t (done (.ok .interrupted))) : Interrupted t := by
  obtain ⟨_, entered, _, rfl, he, run⟩ := run.of_bind_done
  obtain ⟨result, _, _, rfl, turn, run⟩ := run.of_bind_done
  obtain ⟨_, left, _, rfl, hl, run⟩ := run.of_bind_done
  obtain ⟨rfl, ha⟩ := run.of_done
  cases ha
  obtain ⟨stopping, looked, u, rfl, hs, delivered⟩ := turn.of_bind_done
  have inner : Interrupted (looked ++ u) := by
    rw [hs.of_request]
    cases stopping with
    | true =>
        obtain ⟨rfl, -⟩ := delivered.of_done
        exact ⟨List.mem_singleton.mpr rfl, fun x hx => List.mem_singleton.mp hx ▸ id⟩
    | false => exact (interrupted_deliver delivered).after fun x hx => List.mem_singleton.mp hx ▸ id
  rw [he.of_request, hl.of_request]
  have asked : ∀ x ∈ [(⟨.leave, ()⟩ : Exchange WriterInterface)], ¬ Executes x.request :=
    fun x hx => List.mem_singleton.mp hx ▸ id
  have left : Interrupted ((looked ++ u) ++ [⟨.leave, ()⟩]) :=
    ⟨List.mem_append_left _ inner.seen, fun x hx => (List.mem_append.mp hx).elim (inner.unexecuted x) (asked x)⟩
  simpa using left.after (u := [⟨.enter, ()⟩]) fun x hx => List.mem_singleton.mp hx ▸ id

end BridgeRelay.Writer
