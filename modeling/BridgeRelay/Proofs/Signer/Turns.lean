import BridgeRelay.Proofs.Signer.Account

/-!
# Turns of a submission

What a submission can do while no other acts: have a transaction accepted or refused, and come back when it is not
mined in time.
-/

namespace BridgeRelay

open Program Destination

namespace Account

open Signer

variable {ι : Type} {i : ι} {a : Account ι} {s : Signer} {call : BridgeCall} {r : RetryRecord} {p : Pending}
  {stuck : Option UInt64} {nonce : UInt64} {t : List (Exchange WriterInterface)}

theorem along_waiting (h : ∀ x ∈ t, x.request.IsWaiting) : (world i).alone.Along a t a := by
  induction t with
  | nil => exact .nil
  | cons x t ih =>
      obtain ⟨hx, ht⟩ := List.forall_mem_cons.mp h
      exact .cons rfl (((indifferent (.inr hx)).2 x.answer a).mpr rfl) (ih ht)

theorem along_asked (h : ∀ x ∈ t, Asked a.pending x) : (world i).alone.Along a t a := by
  induction t with
  | nil => exact .nil
  | cons x t ih =>
      obtain ⟨rfl | rfl | rfl, ht⟩ := List.forall_mem_cons.mp h
      · exact .cons rfl ⟨rfl, rfl⟩ (ih ht)
      · exact .cons rfl rfl (ih ht)
      · exact .cons rfl rfl (ih ht)

theorem turn_accepted (s : Signer) (call : BridgeCall) (bumps : Nat) (tx : Hash) (free : a.holder = none)
    (room : nonce < nonce + 1) (chosen : nonce = (stuck.or a.next).getD a.pending) :
    ∃ t, (s.broadcast call bumps stuck).Runs t (done (.ok (tx, nonce))) ∧ (world i).alone.Along a t
      { a.accept i nonce with holder := none, next := some (nextNonce a.next nonce) } := by
  obtain ⟨t, o, ho, asked, ht⟩ := runs_accepted s call bumps stuck a.next a.pending tx
  obtain rfl : nonce = o.nonce := chosen.trans ho.symm
  have hw : (world i).alone.Along { a with holder := some i, sent := none } t _ := along_asked asked
  exact ⟨_, ht, .cons rfl ⟨free, rfl, rfl⟩ (hw.append (.cons rfl ⟨room, rfl⟩ (.cons rfl rfl .nil)))⟩

theorem turn_refused (s : Signer) (call : BridgeCall) (bumps : Nat) (stuck : Option UInt64) (e : ChainError)
    (free : a.holder = none) :
    ∃ t, (s.broadcast call bumps stuck).Runs t (done (.error e)) ∧ (world i).alone.Along a t
      { a with holder := none, next := none, sent := none } := by
  obtain ⟨t, o, -, asked, ht⟩ := runs_refused s call bumps stuck a.next a.pending e
  have hw : (world i).alone.Along { a with holder := some i, sent := none } t _ := along_asked asked
  exact ⟨_, ht, .cons rfl ⟨free, rfl, rfl⟩ (hw.append (.cons rfl rfl (.cons rfl rfl .nil)))⟩

variable [DecidableEq ι] {P : Pool ι WriterInterface (Except TransactionError Submission) (Account ι)}

/-- One submission has a transaction accepted while the others wait. -/
theorem reaches_accepted (nonce : UInt64) (hp : P.programs i = s.submitFrom call r p) (free : P.state.holder = none)
    (room : nonce < nonce + 1) (chosen : nonce = (p.stuck.or P.state.next).getD P.state.pending) :
    ∃ P', Pool.Reaches world P P' ∧ (∀ j ≠ i, P'.programs j = P.programs j) ∧
      P'.state = { P.state.accept i nonce with holder := none, next := some (nextNonce P.state.next nonce) } := by
  obtain ⟨t, ht, hw⟩ := turn_accepted s call p.bumps (.ofNat 32 0) free room chosen
  obtain ⟨q, hq⟩ := runs_submitFrom_broadcast ht
  exact ⟨_, .of_runs hq hp rfl hw, fun j hj => Function.update_of_ne hj .., rfl⟩

/-- One submission has a transaction refused while the others wait. -/
theorem reaches_refused (hp : P.programs i = s.submitFrom call r p) (free : P.state.holder = none)
    (e : ChainError) : ∃ P', Pool.Reaches world P P' ∧ (∀ j ≠ i, P'.programs j = P.programs j) ∧
      P'.state = { P.state with holder := none, next := none, sent := none } := by
  obtain ⟨t, ht, hw⟩ := turn_refused s call p.bumps p.stuck e free
  obtain ⟨q, hq⟩ := runs_submitFrom_broadcast ht
  exact ⟨_, .of_runs hq hp rfl hw, fun j hj => Function.update_of_ne hj .., rfl⟩

/-- One submission has a transaction accepted that is not mined in time, and is about to replace it. -/
theorem reaches_stuck {tx : Hash} {d : Duration} (nonce : UInt64)
    (hn : (r.fail (.timeout (Confirmation.lateText s.confirmation tx))).next = .ok (.retryAfter d))
    (hp : P.programs i = s.submitFrom call r p) (free : P.state.holder = none)
    (room : nonce < nonce + 1) (chosen : nonce = (p.stuck.or P.state.next).getD P.state.pending) :
    ∃ P', Pool.Reaches world P P' ∧ (∀ j ≠ i, P'.programs j = P.programs j) ∧
      P'.programs i = s.submitFrom call (r.fail (.timeout (Confirmation.lateText s.confirmation tx)))
        ⟨p.bumps + 1, some nonce⟩ ∧
      P'.state = { P.state.accept i nonce with holder := none, next := some (nextNonce P.state.next nonce) } := by
  obtain ⟨t, ht, hw⟩ := turn_accepted s call p.bumps tx free room chosen
  obtain ⟨u, hu, waits⟩ := runs_attempt_late ht
  obtain ⟨v, hv, waits'⟩ := runs_retryAfter hn hu
  have hr := Pool.Reaches.of_runs hv hp rfl ((hw.append (along_waiting waits)).append (along_waiting waits'))
  exact ⟨_, hr, fun j hj => Function.update_of_ne hj .., Function.update_self .., rfl⟩

end Account

end BridgeRelay
