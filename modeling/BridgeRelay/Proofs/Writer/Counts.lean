import BridgeRelay.Proofs.Writer.Requests

/-!
# What a writer counts

A writer counts votes, executions and retries, but no errors: those it hands back to the listener, which reports them.
-/

namespace BridgeRelay

open Program Destination

/-- Counts no error. -/
def HostRequest.CountsNoError : HostRequest → Prop
  | .record (.error ..) => False
  | _ => True

/-- Counts no error. -/
def WriterRequest.CountsNoError : WriterRequest → Prop
  | .host r => r.CountsNoError
  | _ => True

variable {α : Type} {p : Proposal} {w : Writer} {m : Message}

theorem WriterRequest.IsChoosing.countsNoError {r : WriterRequest} (h : r.IsChoosing) : r.CountsNoError := by
  cases r with
  | chain q => trivial
  | _ => exact h.elim

/-! ## Submissions -/

namespace Signer

variable {s : Signer} {call : BridgeCall}

theorem countsNoError_require {r : Except Duration.Fault α} :
    (Host.require r : Program WriterInterface α).Asks WriterRequest.CountsNoError := by
  cases r with
  | ok a => trivial
  | error fault => exact ⟨trivial, fun e : Empty => nomatch e⟩

theorem countsNoError_awaitReceipt {c : Confirmation} {tx : Hash} :
    (awaitReceipt c tx).Asks WriterRequest.CountsNoError := by
  refine ⟨trivial, fun start => Asks.iterate fun _ => ⟨trivial, fun receipt => ?_⟩⟩
  rcases receipt with e | _ | success
  all_goals try trivial
  all_goals
    refine ⟨trivial, fun now => ?_⟩
    dsimp only [Program.bind]
    split
    · trivial
    · exact ⟨trivial, fun _ => trivial⟩

theorem countsNoError_broadcast {bumps : Nat} {stuck : Option UInt64} :
    (s.broadcast call bumps stuck).Asks WriterRequest.CountsNoError := by
  refine Asks.bind ⟨trivial, fun _ => trivial⟩ fun next => ?_
  refine Asks.bind (asks_choose.mono fun _ => WriterRequest.IsChoosing.countsNoError) fun o => ?_
  cases o with
  | error e => exact ⟨trivial, fun _ => trivial⟩
  | ok o =>
      refine ⟨trivial, fun answer => ?_⟩
      cases answer <;> exact ⟨trivial, fun _ => trivial⟩

theorem countsNoError_attempt {p : Pending} : (s.attempt call p).Asks WriterRequest.CountsNoError := by
  refine Asks.bind countsNoError_broadcast fun sent => ?_
  rcases sent with e | ⟨tx, nonce⟩
  · trivial
  · refine Asks.bind countsNoError_awaitReceipt fun receipt => ?_
    rcases receipt with e | _ | _ <;> trivial

theorem countsNoError_submitFrom {r : RetryRecord} {p : Pending} :
    (s.submitFrom call r p).Asks WriterRequest.CountsNoError := by
  have postponing (c : ErrorClass) (d : Duration) : (s.postpone c d).Asks WriterRequest.CountsNoError :=
    ⟨trivial, fun _ => ⟨trivial, fun _ => trivial⟩⟩
  rw [submitFrom]
  refine Asks.bind countsNoError_attempt ?_
  rintro ⟨e | tx, p'⟩
  · dsimp only
    split
    · exact countsNoError_require
    · trivial
    · trivial
    · exact Asks.bind (postponing _ _) fun _ => countsNoError_submitFrom
    · refine Asks.bind ⟨trivial, fun _ => ⟨trivial, fun _ => trivial⟩⟩ fun _ => ?_
      exact Asks.bind (postponing _ _) fun _ => countsNoError_submitFrom
    · exact Asks.bind (postponing _ _) fun _ => countsNoError_submitFrom
  · trivial
termination_by r.policy.maxAttempts - r.attempt
decreasing_by all_goals exact RetryRecord.left_fail_lt (by assumption) rfl

theorem countsNoError_submit : (s.submit call).Asks WriterRequest.CountsNoError := countsNoError_submitFrom

end Signer

/-! ## Writes -/

namespace Writer

theorem countsNoError_read {q : Program WriterInterface (Except ChainError α)} (hq : q.Asks WriterRequest.CountsNoError) :
    (w.read q).Asks WriterRequest.CountsNoError := by
  refine Asks.bind (asks_readFrom (fun _ => trivial) (fun _ => trivial) hq _ _) fun answer => ?_
  cases answer <;> trivial

theorem countsNoError_readState : (w.readState p).Asks WriterRequest.CountsNoError :=
  countsNoError_read ⟨trivial, fun _ => trivial⟩

theorem countsNoError_readVote : (w.readVote p).Asks WriterRequest.CountsNoError :=
  countsNoError_read ⟨trivial, fun _ => trivial⟩

theorem countsNoError_settle {failure : Option TransactionError} :
    (w.settle p failure).Asks WriterRequest.CountsNoError := by
  refine Asks.bind countsNoError_readState ?_
  rintro (e | state)
  · trivial
  · dsimp only
    split
    · trivial
    · cases failure <;> trivial

theorem countsNoError_execute : (w.execute p).Asks WriterRequest.CountsNoError := by
  refine Asks.bind Signer.countsNoError_submit ?_
  rintro (e | tx | _)
  · exact countsNoError_settle
  · exact ⟨trivial, fun _ => trivial⟩
  · exact countsNoError_settle

theorem countsNoError_watch {left : Nat} : (w.watch p left).Asks WriterRequest.CountsNoError := by
  induction left with
  | zero => trivial
  | succ left ih =>
      refine Asks.bind ⟨trivial, fun _ => trivial⟩ ?_
      rintro (_ | _)
      · refine Asks.bind countsNoError_readState ?_
        rintro (e | ⟨_ | _ | _ | _ | _, votes, block⟩)
        case ok.inactive | ok.active => exact ⟨trivial, fun _ => ih⟩
        case ok.passed => exact countsNoError_execute
        all_goals trivial
      · trivial

theorem countsNoError_afterFailedVote {failure : TransactionError} :
    (w.afterFailedVote p failure).Asks WriterRequest.CountsNoError := by
  refine Asks.bind countsNoError_readState ?_
  rintro (e | state)
  · trivial
  · dsimp only
    split
    · trivial
    · split
      · trivial
      · refine Asks.bind countsNoError_readVote ?_
        rintro (e | _ | _) <;> trivial

theorem countsNoError_ensureVote : (w.ensureVote p).Asks WriterRequest.CountsNoError := by
  refine Asks.bind countsNoError_readVote ?_
  rintro (e | _ | _)
  · trivial
  · refine Asks.bind Signer.countsNoError_submit ?_
    rintro (e | tx | _)
    · exact countsNoError_afterFailedVote
    · exact ⟨trivial, fun _ => trivial⟩
    · trivial
  · trivial

theorem countsNoError_advance : (w.advance p).Asks WriterRequest.CountsNoError := by
  refine Asks.bind countsNoError_readState ?_
  rintro (e | ⟨_ | _ | _ | _ | _, votes, block⟩)
  case ok.inactive | ok.active =>
    refine Asks.bind countsNoError_ensureVote ?_
    rintro (e | _ | outcome)
    · trivial
    · exact countsNoError_watch
    · trivial
  case ok.passed => exact countsNoError_execute
  all_goals trivial

theorem countsNoError_deliver : (w.deliver m).Asks WriterRequest.CountsNoError := by
  unfold deliver
  split
  · trivial
  · refine Asks.bind (countsNoError_read ⟨trivial, fun _ => trivial⟩) ?_
    rintro (e | handler)
    · trivial
    · dsimp only
      split
      · trivial
      · exact countsNoError_advance

/-- A write counts no error. -/
theorem countsNoError_write : (w.write m).Asks WriterRequest.CountsNoError := by
  refine ⟨trivial, fun _ => ⟨trivial, fun stopping => Asks.bind ?_ fun _ => ⟨trivial, fun _ => trivial⟩⟩⟩
  cases stopping with
  | true => trivial
  | false => exact countsNoError_deliver

end Writer

end BridgeRelay
