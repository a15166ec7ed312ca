import BridgeRelay.Proofs.Signer.Requests

/-!
# Attempts of a call

A submission is a chain of attempts, with waits between them. So a world has to be met in a single attempt, and in what
may follow its failure.
-/

namespace BridgeRelay.Signer

open Program

variable {S : Type} {W : World WriterInterface S} {s : Signer} {call : BridgeCall}
  {ready : Option UInt64 → S → Prop} {failed : ChainError → Option UInt64 → S → Prop} {final : S → Prop}

theorem nonceConflict_of_next {r : RetryRecord} {e : ChainError} {d : Duration}
    (h : (r.fail e).next = .ok (.refreshNonce d)) :
    ErrorClass.ofError e = .nonceConflict := by
  cases ha : r.policy.allows (r.attempt + 1) <;> cases hb : r.policy.backoff r.attempt <;>
    cases hc : ErrorClass.ofError e <;> simp_all [RetryRecord.next, RetryRecord.fail, Except.map]

/-- What holds after an attempt: the call is over, or the attempt failed and left something to replace. -/
def Attempted (failed : ChainError → Option UInt64 → S → Prop) (final : S → Prop) :
    Except ChainError Hash × Pending → S → Prop
  | (.ok _, _), st => final st
  | (.error e, p), st => failed e p.stuck st

/-- A world in which a call can be attempted again and again. Before an attempt the state is ready for the replacement
of a transaction at some nonce, if one is stuck there, and after a failure it is what the failure leaves. The call may
be over with any failure, and is over once a transaction is mined. -/
structure Attempts (W : World WriterInterface S) (s : Signer) (call : BridgeCall) (ready : Option UInt64 → S → Prop)
    (failed : ChainError → Option UInt64 → S → Prop) (final : S → Prop) : Prop where
  attempt (p : Pending) (st : S) : ready p.stuck st → (s.attempt call p).Keeps W (Attempted failed final) st
  give_up (e : ChainError) (stuck : Option UInt64) (st : S) : failed e stuck st → final st
  abort (fault : Duration.Fault) (e : ChainError) (stuck : Option UInt64) (st : S) : failed e stuck st →
    (Host.require (.error fault) : Program WriterInterface (Except TransactionError Submission)).Keeps W
      (fun _ st => final st) st
  again (e : ChainError) (stuck : Option UInt64) (st : S) : ¬ IsFinal e → failed e stuck st → ready stuck st
  forget (e : ChainError) (stuck : Option UInt64) (st : S) : ErrorClass.ofError e = .nonceConflict →
    failed e stuck st → forgetNonce.Keeps W (fun _ st => ready none st) st
  postpone (c : ErrorClass) (d : Duration) (stuck : Option UInt64) (st : S) : ready stuck st →
    (s.postpone c d).Keeps W (fun _ st => ready stuck st) st

theorem Attempts.keeps_submitFrom {r : RetryRecord} {p : Pending} {st : S} (h : Attempts W s call ready failed final)
    (hr : ready p.stuck st) : (s.submitFrom call r p).Keeps W (fun _ st => final st) st := by
  rw [submitFrom]
  refine keeps_do.mpr ((h.attempt p st hr).mono ?_)
  rintro ⟨e | tx, p'⟩ st left
  · have again {a : RetryAction} (hn : (r.fail e).next = .ok a) (ha : a.isRetry) : ready p'.stuck st :=
      h.again e _ st (not_isFinal_of_next hn ha) left
    dsimp only
    split
    case h_1 fault _ => exact h.abort fault e _ st left
    case h_2 => exact h.give_up e _ st left
    case h_3 => exact h.give_up e _ st left
    case h_4 hn =>
      refine keeps_do.mpr ((h.postpone _ _ _ st (again hn rfl)).mono fun _ st hr => ?_)
      exact h.keeps_submitFrom hr
    case h_5 hn =>
      refine keeps_do.mpr ((h.forget e _ st (nonceConflict_of_next hn) left).mono fun _ st hr => ?_)
      refine keeps_do.mpr ((h.postpone _ _ _ st hr).mono fun _ st hr => ?_)
      exact h.keeps_submitFrom hr
    case h_6 hn =>
      refine keeps_do.mpr ((h.postpone _ _ _ st (again hn rfl)).mono fun _ st hr => ?_)
      exact h.keeps_submitFrom hr
  · exact left
termination_by r.policy.maxAttempts - r.attempt
decreasing_by all_goals exact RetryRecord.left_fail_lt (by assumption) rfl

end BridgeRelay.Signer
