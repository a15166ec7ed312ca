import BridgeRelay.Proofs.Signer.Evidence
import BridgeRelay.Proofs.Writer.Observations
import BridgeRelay.Proofs.Writer.Runs
import BridgeRelay.Proofs.Writer.Voting

/-!
# Outcomes of a writer

What the trace of a write shows when the write ends with an outcome that is final. A confirmed execution is behind the
one, and behind the other the last record of the proposal, unless the chain answered the execution as done already
and the record has not caught up.
-/

namespace BridgeRelay.Writer

open Program Destination
open Devnet (ProposalKey)

variable {w : Writer} {m : Message} {p : Proposal} {t u v : Trace} {outcome : Outcome} {state : ProposalState}

/-! ## Evidence -/

/-- The last question for a record was about the proposal, and was answered with its state. -/
def LastRead (p : Proposal) (state : ProposalState) (t : Trace) : Prop :=
  (readings t).getLast? = some (.of p, .ok state)

/-- An execution was answered as done already, and a record that was read later says that the proposal is not final. -/
def Outrun (w : Writer) (p : Proposal) (state : ProposalState) (t : Trace) : Prop :=
  state.status.isTerminal = false ∧ ∃ before sub after e, t = before ++ (sub ++ after) ∧
    (w.signer.submit (.execute p)).Runs sub (done (.ok .alreadyProcessed)) ∧
    Signer.Refused e sub ∧ ErrorClass.ofError e = .alreadyProcessed ∧ LastRead p state after

/-- What is behind an outcome. -/
def Backed (w : Writer) (p : Proposal) (t : Trace) : Outcome → Prop
  | .executed => ∃ tx, Signer.Mined (.execute p) tx t
  | .alreadyFinal s => ∃ state, LastRead p state t ∧
      (state.status = s ∧ s.isTerminal = true ∨ s = .executed ∧ w.Outrun p state t)
  | _ => True

theorem lastRead_of_endsWith (h : EndsWith ⟨.chain (.proposal p.origin p.nonce p.dataHash), .ok state⟩ t) :
    LastRead p state t := by
  obtain ⟨earlier, hr⟩ := readings_of_endsWith h
  rw [LastRead, hr, List.getLast?_concat]

theorem LastRead.after (h : LastRead p state t) (u : Trace) : LastRead p state (u ++ t) := by
  simp only [LastRead] at h ⊢
  simp [List.getLast?_append, h]

theorem LastRead.append (h : LastRead p state t) (hu : readings u = []) : LastRead p state (t ++ u) := by
  simpa [LastRead, hu] using h

theorem LastRead.state_eq {p' : Proposal} {state' : ProposalState} (h : LastRead p state t)
    (h' : LastRead p' state' t) : state = state' := by
  have := h.symm.trans h'
  simp_all

theorem Outrun.after (h : w.Outrun p state t) (u : Trace) : w.Outrun p state (u ++ t) := by
  obtain ⟨hs, before, sub, after, e, rfl, hr⟩ := h
  exact ⟨hs, u ++ before, sub, after, e, by simp, hr⟩

theorem Outrun.append (h : w.Outrun p state t) (hu : readings u = []) : w.Outrun p state (t ++ u) := by
  obtain ⟨hs, before, sub, after, e, rfl, hr, hf, hc, hl⟩ := h
  exact ⟨hs, before, sub, after ++ u, e, by simp, hr, hf, hc, hl.append hu⟩

theorem Backed.after (h : w.Backed p t outcome) (u : Trace) : w.Backed p (u ++ t) outcome := by
  cases outcome with
  | executed =>
      obtain ⟨tx, hm⟩ := h
      exact ⟨tx, hm.after u⟩
  | alreadyFinal s =>
      obtain ⟨state, hl, hs⟩ := h
      exact ⟨state, hl.after u, hs.imp_right fun ⟨h, ho⟩ => ⟨h, ho.after u⟩⟩
  | awaitingThreshold | interrupted => trivial

theorem Backed.append (h : w.Backed p t outcome) (hu : readings u = []) : w.Backed p (t ++ u) outcome := by
  cases outcome with
  | executed =>
      obtain ⟨tx, hm⟩ := h
      exact ⟨tx, hm.append u⟩
  | alreadyFinal s =>
      obtain ⟨state, hl, hs⟩ := h
      exact ⟨state, hl.append hu, hs.imp_right fun ⟨h, ho⟩ => ⟨h, ho.append hu⟩⟩
  | awaitingThreshold | interrupted => trivial

/-- A final status that is read is the evidence of the outcome. -/
theorem backed_of_terminal (hl : LastRead p state t) (hs : state.status.isTerminal = true) :
    w.Backed p t (.alreadyFinal state.status) := ⟨state, hl, .inl ⟨rfl, hs⟩⟩

/-! ## Execution -/

/-- A read that gives a state ends with its record. -/
theorem lastRead_of_runs (hr : (w.readState p).Runs t (done (.ok state))) : LastRead p state t :=
  lastRead_of_endsWith (keeps_readState.done_traced hr state rfl)

theorem lastRead_settle {failure : Option TransactionError} (hr : (w.settle p failure).Runs t (done (.ok outcome))) :
    ∃ state, LastRead p state t ∧ (state.status.isTerminal = true ∧ outcome = .alreadyFinal state.status ∨
      state.status.isTerminal = false ∧ failure = none ∧ outcome = .alreadyFinal .executed) := by
  obtain ⟨e | state, u, v, rfl, hu, hv⟩ := hr.of_bind_done
  · cases hv.of_done.2
  · dsimp only at hv
    split at hv
    case isTrue hs =>
      obtain ⟨rfl, ha⟩ := hv.of_done
      cases ha
      exact ⟨state, by simpa using lastRead_of_runs hu, .inl ⟨hs, rfl⟩⟩
    case isFalse hs =>
      cases failure with
      | some e => cases hv.of_done.2
      | none =>
          obtain ⟨rfl, ha⟩ := hv.of_done
          cases ha
          exact ⟨state, by simpa using lastRead_of_runs hu, .inr ⟨by simpa using hs, rfl, rfl⟩⟩

theorem backed_execute (hr : (w.execute p).Runs t (done (.ok outcome))) : w.Backed p t outcome := by
  obtain ⟨e | tx | _, u, v, rfl, hu, hv⟩ := hr.of_bind_done
  · obtain ⟨state, hl, ⟨hs, rfl⟩ | ⟨-, hf, -⟩⟩ := lastRead_settle hv
    · exact backed_of_terminal (hl.after u) hs
    · cases hf
  · obtain ⟨_, v, v', rfl, -, hv⟩ := hv.of_bind_done
    cases hv.of_done.2
    exact ⟨tx, (Signer.mined_of_confirmed hu).append _⟩
  · obtain ⟨state, hl, ⟨hs, rfl⟩ | ⟨hs, -, rfl⟩⟩ := lastRead_settle hv
    · exact backed_of_terminal (hl.after u) hs
    · obtain ⟨e, hf, hc⟩ := Signer.refused_of_alreadyProcessed hu
      exact ⟨state, hl.after u, .inr ⟨rfl, hs, [], u, v, e, rfl, hu, hf, hc, hl⟩⟩

/-! ## Watching -/

theorem backed_watch {left : Nat} (hr : (w.watch p left).Runs t (done (.ok outcome))) : w.Backed p t outcome := by
  induction left generalizing t with
  | zero =>
      cases hr.of_done.2
      trivial
  | succ left ih =>
      obtain ⟨stopping, u, v, rfl, -, hv⟩ := hr.of_bind_done
      cases stopping with
      | true =>
          cases hv.of_done.2
          trivial
      | false =>
          refine Backed.after ?_ u
          obtain ⟨e | ⟨_ | _ | _ | _ | _, votes, block⟩, u', v', rfl, hu, hv⟩ := hv.of_bind_done
          case ok.passed => exact (backed_execute hv).after u'
          case ok.inactive | ok.active =>
            obtain ⟨_, v, v', rfl, -, hv⟩ := hv.of_bind_done
            exact ((ih hv).after v).after u'
          case ok.executed | ok.cancelled =>
            obtain ⟨rfl, ha⟩ := hv.of_done
            cases ha
            exact backed_of_terminal (by simpa using lastRead_of_runs hu) rfl
          case error => cases hv.of_done.2

/-! ## Voting -/

theorem backed_afterFailedVote {failure : TransactionError}
    (hr : (w.afterFailedVote p failure).Runs t (done (.ok (some outcome)))) : w.Backed p t outcome := by
  obtain ⟨e | state, u, v, rfl, hu, hv⟩ := hr.of_bind_done
  · cases hv.of_done.2
  · dsimp only at hv
    split at hv
    case isTrue hs =>
      obtain ⟨rfl, ha⟩ := hv.of_done
      cases ha
      exact backed_of_terminal (by simpa using lastRead_of_runs hu) hs
    case isFalse =>
      split at hv
      · cases hv.of_done.2
      · obtain ⟨e | _ | _, u', v', rfl, -, hv⟩ := hv.of_bind_done <;> cases hv.of_done.2

theorem backed_vote (hr : (w.vote p).Runs t (done (.ok (some outcome)))) : w.Backed p t outcome := by
  obtain ⟨e | tx | _, u, v, rfl, -, hv⟩ := hr.of_bind_done
  · exact (backed_afterFailedVote hv).after u
  · obtain ⟨_, v, v', rfl, -, hv⟩ := hv.of_bind_done
    cases hv.of_done.2
  · cases hv.of_done.2

theorem backed_ensureVote (hr : (w.ensureVote p).Runs t (done (.ok (some outcome)))) : w.Backed p t outcome := by
  obtain ⟨e | _ | _, u, v, rfl, -, hv⟩ := hr.of_bind_done
  · cases hv.of_done.2
  · exact (backed_vote hv).after u
  · cases hv.of_done.2

/-! ## Messages -/

theorem backed_advance (hr : (w.advance p).Runs t (done (.ok outcome))) : w.Backed p t outcome := by
  obtain ⟨e | ⟨_ | _ | _ | _ | _, votes, block⟩, u, v, rfl, hu, hv⟩ := hr.of_bind_done
  case ok.inactive | ok.active =>
    refine Backed.after ?_ u
    obtain ⟨e | _ | outcome', u', v', rfl, hu', hv⟩ := hv.of_bind_done
    · cases hv.of_done.2
    · exact (backed_watch hv).after u'
    · obtain ⟨rfl, ha⟩ := hv.of_done
      cases ha
      simpa using backed_ensureVote hu'
  case ok.passed => exact (backed_execute hv).after u
  case ok.executed | ok.cancelled =>
    obtain ⟨rfl, ha⟩ := hv.of_done
    cases ha
    exact backed_of_terminal (by simpa using lastRead_of_runs hu) rfl
  case error => cases hv.of_done.2

theorem backed_deliver (hr : (w.deliver m).Runs t (done (.ok outcome))) :
    ∃ p, IsProposalOf m t p ∧ w.Backed p t outcome := by
  unfold deliver at hr
  cases hd : Payload.encode m.transferType m.payload with
  | error e =>
      rw [hd] at hr
      cases hr.of_done.2
  | ok data =>
      rw [hd] at hr
      obtain ⟨e | handler, u, v, rfl, hu, hv⟩ := hr.of_bind_done
      · cases hv.of_done.2
      · dsimp only at hv
        split at hv
        · cases hv.of_done.2
        · obtain ⟨u, rfl⟩ := keeps_readHandler.done_traced hu handler rfl
          exact ⟨_, ⟨data, handler, hd, by simp, rfl⟩, (backed_advance hv).after _⟩

/-! ## Main statement -/

/-- A write that ends with a final outcome saw what the outcome says of the proposal of its message: an execution was
accepted and its receipt told of success, or the last record told the final status. Only of an execution that the chain
answered as done already may the last record, read after the answer, still say otherwise. -/
theorem outcome_backed (hr : (w.write m).Runs t (done (.ok outcome))) :
    outcome = .interrupted ∨ ∃ p, IsProposalOf m t p ∧ w.Backed p t outcome := by
  obtain ⟨_, u, v, rfl, -, hv⟩ := hr.of_bind_done
  obtain ⟨result, v, v', rfl, hu, hv⟩ := hv.of_bind_done
  obtain ⟨_, left, v', rfl, hl, hv⟩ := hv.of_bind_done
  obtain ⟨rfl, ha⟩ := hv.of_done
  cases ha
  have unread : readings (left ++ []) = [] := by
    refine readings_of_forall fun x hx => ?_
    have leaving : leave.Asks fun r : WriterRequest => ¬ r.IsReading := ⟨id, fun _ => trivial⟩
    exact leaving.runs hl x (by simpa using hx)
  obtain ⟨stopping, v, v', rfl, -, hv⟩ := hu.of_bind_done
  cases stopping with
  | true =>
      cases hv.of_done.2
      exact .inl rfl
  | false =>
      obtain ⟨p, hp, hb⟩ := backed_deliver hv
      refine .inr ⟨p, ?_, (((hb.after v).append unread).after u)⟩
      obtain ⟨data, handler, hd, hh, rfl⟩ := hp
      exact ⟨data, handler, hd, by simp [hh], rfl⟩

theorem sample_outcome_backed : ∃ t p state, (sample.write (Devnet.sampleMessage 1 2 7)).Runs t
    (done (.ok (.alreadyFinal .cancelled))) ∧ LastRead p state t ∧ state.status = .cancelled := by
  obtain ⟨data, hd⟩ := encode_sampleMessage
  let p := Proposal.ofMessage (Devnet.sampleMessage 1 2 7) Devnet.fungibleHandler data
  have advanced : (sample.advance p).Runs [⟨.chain (.proposal p.origin p.nonce p.dataHash), .ok ⟨.cancelled, 1, 0⟩⟩]
      (done (.ok (.alreadyFinal .cancelled))) := (sample.runs_readState p _).bind _
  have written := runs_write_done (runs_deliver hd fungibleHandler_ne_zero advanced)
  obtain h | ⟨p, -, state, hl, ⟨hs, -⟩ | ⟨h, -⟩⟩ := outcome_backed written
  · cases h
  · exact ⟨_, p, state, written, hl, hs⟩
  · cases h

/-- An execution that is answered as done already ends the write as executed, whatever status is read then. -/
theorem sample_final_while_passed : ∃ t p, (sample.write (Devnet.sampleMessage 1 2 7)).Runs t
    (done (.ok (.alreadyFinal .executed))) ∧ LastRead p ⟨.passed, 1, 0⟩ t ∧
      ∀ p' state, LastRead p' state t → state.status ≠ .executed := by
  obtain ⟨data, hd⟩ := encode_sampleMessage
  let p := Proposal.ofMessage (Devnet.sampleMessage 1 2 7) Devnet.fungibleHandler data
  have processed : ErrorClass.ofError (.reverted "proposal already executed") = .alreadyProcessed := by decide +kernel
  obtain ⟨t, u, o, hs⟩ := Signer.sample.runs_alreadyProcessed (.execute p) processed
  have executed := runs_execute_processed (w := sample) ⟨.passed, 1, 0⟩ rfl hs
  obtain ⟨t, written, seen⟩ : ∃ t, (sample.write (Devnet.sampleMessage 1 2 7)).Runs t
      (done (.ok (.alreadyFinal .executed))) ∧ LastRead p ⟨.passed, 1, 0⟩ t :=
    ⟨_, runs_write_done (runs_deliver hd fungibleHandler_ne_zero (runs_advance_passed 1 0 executed)),
      by simp [LastRead, readings, List.getLast?_cons, p, ProposalKey.of]⟩
  refine ⟨t, p, written, seen, fun p' state h => ?_⟩
  rw [h.state_eq seen]
  decide

end BridgeRelay.Writer
