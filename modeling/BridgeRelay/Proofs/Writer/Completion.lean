import BridgeRelay.Connection
import BridgeRelay.Proofs.Devnet.Ledger
import BridgeRelay.Proofs.Writer.Runs

/-!
# Completion of a proposal

A writer that has a bridge for itself brings each proposal that its vote lets pass to its execution, provided that it
looks at the proposal after the vote.
-/

namespace BridgeRelay

open Program Destination Devnet Ledger

variable {relayer : Address} {call : BridgeCall} {b : Bridge} {s s' : Ledger} {p : Proposal}

/-! ## Calls -/

/-- A call that the bridge takes is confirmed. -/
theorem Signer.ends_accepted {g : Signer} (h : s.bridge.apply relayer call = .ok b) : (g.submit call).Ends (world relayer)
    (fun a s' => (∃ tx, a = .ok (.confirmed tx)) ∧ s' = s.accept call b) s := by
  have only {a : Except ChainError Hash} {s' : Ledger} (sent : Sent (world relayer) Eq call s a s') :
      (∃ tx, a = .ok tx) ∧ s' = s.accept call b := by
    obtain ⟨rfl, reply, rfl⟩ := sent
    obtain ⟨_, refused, -⟩ | ⟨b', tx, accepted, rfl, rfl⟩ := reply_send reply
    · cases h.symm.trans refused
    · cases h.symm.trans accepted
      exact ⟨⟨tx, rfl⟩, rfl⟩
  refine (ends_submit serves).mono ?_
  rintro (e | tx | _) s' sent
  · obtain ⟨_, sent, -⟩ := sent
    obtain ⟨⟨_, ⟨⟩⟩, _⟩ := only sent
  · exact ⟨⟨tx, rfl⟩, (only sent).2⟩
  · obtain ⟨_, sent⟩ := sent
    obtain ⟨⟨_, ⟨⟩⟩, _⟩ := only sent

namespace Writer

variable {w : Writer} {m : Message} {data : Bytes} {left : Nat}

/-! ## Reads -/

theorem ends_ask_alone {α : Type} {Q : α → Ledger → Prop} {r : WriterRequest} {v : r.Answer}
    {next : WriterInterface.Answer r → Program WriterInterface α}
    (hr : ∀ s' a, Reply relayer s ⟨r, a⟩ s' ↔ a = v ∧ s' = s) (h : (next v).Ends (world relayer) Q s) :
    (ask r next).Ends (world relayer) Q s := by
  refine .ask_still rfl ⟨v, s, (hr _ _).mpr ⟨rfl, rfl⟩⟩ fun a s' hx => ?_
  obtain ⟨rfl, rfl⟩ := (hr _ _).mp hx
  exact h

theorem ends_readState_alone : (w.readState p).Ends (world relayer)
    (fun a s' => ∃ state, a = .ok state ∧ state = (s.bridge.record (.of p)).state ∧ s' = s) s :=
  ends_read (ends_ask_alone (fun _ _ => .rfl) (.done ⟨_, rfl, rfl, rfl⟩))

theorem ends_readVote_alone : (w.readVote p).Ends (world relayer)
    (fun a s' => ∃ voted, a = .ok voted ∧ voted = s.bridge.hasVoted (.of p) w.relayer ∧ s' = s) s :=
  ends_read (ends_ask_alone (fun _ _ => .rfl) (.done ⟨_, rfl, rfl, rfl⟩))

theorem ends_readHandler_alone : (w.read (query (.handler m.resource))).Ends (world relayer)
    (fun a s' => ∃ handler, a = .ok handler ∧ handler = s.bridge.handler m.resource ∧ s' = s) s :=
  ends_read (ends_ask_alone (fun _ _ => .rfl) (.done ⟨_, rfl, rfl, rfl⟩))

/-! ## Steps -/

theorem ends_execute_alone (hp : (s.bridge.record (.of p)).status = .passed) : (w.execute p).Ends (world relayer)
    (fun a s' => a = .ok .executed ∧ s' = s.executed p) s := by
  have accepted : s.bridge.apply relayer (.execute p) = _ := Bridge.execute_of_passed hp
  refine .bind ((Signer.ends_accepted accepted).mono ?_)
  rintro _ _ ⟨⟨tx, rfl⟩, rfl⟩
  refine .bind (serves.ends_ask trivial ?_)
  rintro _ _ - rfl
  exact .done (.done ⟨rfl, rfl⟩)

theorem ends_vote_alone (hs : (s.bridge.record (.of p)).status.isOpen = true)
    (hv : relayer ∉ (s.bridge.record (.of p)).voters) : (w.vote p).Ends (world relayer)
      (fun a s' => a = .ok none ∧ s' = s.voted relayer p) s := by
  have accepted : s.bridge.apply relayer (.vote p) = _ := Bridge.vote_of_open hs hv
  refine .bind ((Signer.ends_accepted accepted).mono ?_)
  rintro _ _ ⟨⟨tx, rfl⟩, rfl⟩
  refine .bind (serves.ends_ask trivial ?_)
  rintro _ _ - rfl
  exact .done (.done ⟨rfl, rfl⟩)

theorem ends_ensureVote_alone (hs : (s.bridge.record (.of p)).status.isOpen = true)
    (hv : w.relayer ∉ (s.bridge.record (.of p)).voters) : (w.ensureVote p).Ends (world w.relayer)
      (fun a s' => a = .ok none ∧ s' = s.voted w.relayer p) s := by
  refine .bind (ends_readVote_alone.mono ?_)
  rintro _ s ⟨voted, rfl, rfl, rfl⟩
  have unvoted : s.bridge.hasVoted (.of p) w.relayer = false := by
    simpa [Bridge.hasVoted] using hv
  simp only [unvoted]
  exact ends_vote_alone hs hv

/-- The first look finds that the proposal has passed. -/
theorem ends_watch_alone (hp : (s.bridge.record (.of p)).status = .passed) : (w.watch p (left + 1)).Ends (world relayer)
    (fun a s' => a = .ok .executed ∧ s' = s.executed p) s := by
  refine .bind (ends_ask_alone (v := false) (fun _ _ => .rfl) (.done ?_))
  refine .bind (ends_readState_alone.mono ?_)
  rintro _ s ⟨state, rfl, rfl, rfl⟩
  simp only [ProposalRecord.state, hp]
  exact ends_execute_alone hp

/-! ## Messages -/

/-- A proposal that takes votes is voted for and then watched. -/
theorem ends_advance_open {Q : Result Outcome → Ledger → Prop} (hs : (s.bridge.record (.of p)).status.isOpen = true)
    (hv : w.relayer ∉ (s.bridge.record (.of p)).voters)
    (watched : (w.watch p w.watchLimit).Ends (world w.relayer) Q (s.voted w.relayer p)) :
    (w.advance p).Ends (world w.relayer) Q s := by
  refine .bind (ends_readState_alone.mono ?_)
  rintro _ s ⟨state, rfl, rfl, rfl⟩
  cases h : (s.bridge.record (.of p)).status with
  | inactive | active =>
      simp only [ProposalRecord.state, h]
      refine .bind ((ends_ensureVote_alone hs hv).mono ?_)
      rintro _ _ ⟨rfl, rfl⟩
      exact watched
  | passed | executed | cancelled =>
      rw [h] at hs
      cases hs

/-- How a write ends that completes a proposal: with its execution, unless it was executed before. -/
def Completes (p : Proposal) (s : Ledger) (a : Result Outcome) (s' : Ledger) : Prop :=
  (a = .ok .executed ∧ (s.bridge.record (.of p)).status ≠ .executed ∨
    a = .ok (.alreadyFinal .executed) ∧ (s.bridge.record (.of p)).status = .executed) ∧ s.Completed p s'

theorem ends_advance_alone (watched : w.watchLimit ≠ 0) (counted : s.bridge.Counted)
    (uncancelled : (s.bridge.record (.of p)).status ≠ .cancelled)
    (enough : s.bridge.threshold ≤ s.bridge.tally (.of p) w.relayer) :
    (w.advance p).Ends (world w.relayer) (Completes p s) s := by
  cases h : (s.bridge.record (.of p)).status with
  | inactive | active =>
      have hs : (s.bridge.record (.of p)).status.isOpen = true := by rw [h]; rfl
      have hv : w.relayer ∉ (s.bridge.record (.of p)).voters := by
        intro hv
        rw [Bridge.tally, if_pos hv] at enough
        exact absurd enough (Nat.not_le.mpr (counted _ hs (List.ne_nil_of_mem hv)))
      obtain ⟨left, hw⟩ := Nat.exists_eq_succ_of_ne_zero watched
      refine ends_advance_open hs hv ?_
      rw [hw]
      refine (ends_watch_alone (passed_voted hv enough)).mono ?_
      rintro _ _ ⟨rfl, rfl⟩
      exact ⟨.inl ⟨rfl, by simp [h]⟩, completed_voted hs hv enough⟩
  | passed =>
      refine .bind (ends_readState_alone.mono ?_)
      rintro _ s ⟨state, rfl, rfl, rfl⟩
      simp only [ProposalRecord.state, h]
      refine (ends_execute_alone h).mono ?_
      rintro _ _ ⟨rfl, rfl⟩
      exact ⟨.inl ⟨rfl, by simp [h]⟩, completed_executed h⟩
  | executed =>
      refine .bind (ends_readState_alone.mono ?_)
      rintro _ s ⟨state, rfl, rfl, rfl⟩
      simp only [ProposalRecord.state, h]
      exact .done ⟨.inr ⟨rfl, h⟩, completed_self h⟩
  | cancelled => exact absurd h uncancelled

theorem ends_deliver_bound {Q : Result Outcome → Ledger → Prop} (hd : Payload.encode m.transferType m.payload = .ok data)
    (hz : s.bridge.handler m.resource ≠ Address.zero)
    (advanced : (w.advance (.ofMessage m (s.bridge.handler m.resource) data)).Ends (world relayer) Q s) :
    (w.deliver m).Ends (world relayer) Q s := by
  unfold deliver
  rw [hd]
  refine .bind (ends_readHandler_alone.mono ?_)
  rintro _ s ⟨_, rfl, rfl, rfl⟩
  dsimp only
  rw [if_neg hz]
  exact advanced

theorem ends_write_alone {Q : Result Outcome → Ledger → Prop} (delivered : (w.deliver m).Ends (world relayer) Q s) :
    (w.write m).Ends (world relayer) Q s := by
  refine .bind (serves.ends_ask trivial ?_)
  rintro _ _ - rfl
  refine .done (.bind (.bind (ends_ask_alone (v := false) (fun _ _ => .rfl) (.done (delivered.mono ?_)))))
  intro a s' h
  refine .bind (serves.ends_ask trivial ?_)
  rintro _ _ - rfl
  exact .done (.done h)

/-! ## Main statement -/

/-- At a bridge on which nobody else acts, the write of a message whose resource is bound ends with the execution of its
proposal, unless that is cancelled, if the vote of the relayer, recorded or not, makes the votes enough. The bridge has
then accepted the calls that the proposal lacked and no others. The writer has to look at a proposal at least once after
its vote. -/
theorem sufficient_vote_completes (w : Writer) (watched : w.watchLimit ≠ 0)
    (hd : Payload.encode m.transferType m.payload = .ok data) (hz : s.bridge.handler m.resource ≠ Address.zero)
    (counted : s.bridge.Counted) (hp : p = .ofMessage m (s.bridge.handler m.resource) data)
    (uncancelled : (s.bridge.record (.of p)).status ≠ .cancelled)
    (enough : s.bridge.threshold ≤ s.bridge.tally (.of p) w.relayer) :
    (w.write m).Ends (world w.relayer) (Completes p s) s := by
  subst hp
  exact ends_write_alone (ends_deliver_bound hd hz (ends_advance_alone watched counted uncancelled enough))

theorem counted_fresh : ({} : Bridge).Counted := fun _ _ h => absurd rfl h

theorem handler_fresh : ({} : Bridge).handler sampleResource = fungibleHandler := by decide +kernel

theorem sample_sufficient_vote_completes : ∃ (p : Proposal) (t : Trace) (s' : Ledger),
    (sample.write (sampleMessage 1 2 7)).Runs t (done (.ok .executed)) ∧ (world sample.relayer).Along {} t s' ∧
      (s'.bridge.record (.of p)).status = .executed ∧ s'.calls = [.execute p, .vote p] := by
  obtain ⟨data, hd⟩ := encode_sampleMessage
  have bound : ({} : Ledger).bridge.handler sampleResource ≠ Address.zero := by
    rw [handler_fresh]
    exact fungibleHandler_ne_zero
  have ends := sufficient_vote_completes (s := {}) sample (by decide) hd bound counted_fresh rfl nofun (Nat.le_refl 1)
  obtain ⟨t, a, s', written, along, ⟨rfl, -⟩ | ⟨-, before⟩, completed⟩ := ends.exists_runs fun _ => rfl
  · exact ⟨_, t, s', written, along, completed.status, completed.calls⟩
  · cases before

/-! ## Without a look -/

/-- A writer that never looks at a proposal after its vote leaves it passed. -/
theorem ends_write_unwatched (w : Writer) (unwatched : w.watchLimit = 0)
    (hd : Payload.encode m.transferType m.payload = .ok data) (hz : s.bridge.handler m.resource ≠ Address.zero)
    (hp : p = .ofMessage m (s.bridge.handler m.resource) data)
    (hs : (s.bridge.record (.of p)).status.isOpen = true) (hv : w.relayer ∉ (s.bridge.record (.of p)).voters) :
    (w.write m).Ends (world w.relayer) (fun a s' => a = .ok .awaitingThreshold ∧ s' = s.voted w.relayer p) s := by
  subst hp
  refine ends_write_alone (ends_deliver_bound hd hz (ends_advance_open hs hv ?_))
  rw [unwatched]
  exact .done ⟨rfl, rfl⟩

/-- Settings of one chain on which no proposal is looked at after the vote. -/
def sampleUnwatched : ChainConfig where
  name := "c"
  domain := 2
  rpcUrl := "http://x"
  bridgeAddress := "0x62877dDCd49aD22f5eDfc6ac108e9a4b5D2bD88B"
  watchLimit := 0

/-- Settings that are accepted although their writer leaves proposals passed. -/
def sampleAccepted : Config where
  chains := [sampleUnwatched]
  privateKey := "0x1111111111111111111111111111111111111111111111111111111111111111"

theorem sample_vote_without_execution : sampleAccepted.validate = .ok () ∧
    ∃ (rc : RelayChain) (p : Proposal) (t : Trace) (s' : Ledger),
      sampleUnwatched.relayChain sampleAccepted.retryPolicy sample.relayer = .ok rc ∧
      ({} : Bridge).threshold ≤ ({} : Bridge).tally (.of p) sample.relayer ∧
      (rc.writer.write (sampleMessage 1 2 7)).Runs t (done (.ok .awaitingThreshold)) ∧
      (world sample.relayer).Along {} t s' ∧ (s'.bridge.record (.of p)).status = .passed := by
  have faultless : sampleAccepted.fault? = none := by decide +kernel
  refine ⟨by rw [Config.validate, faultless], ?_⟩
  obtain ⟨data, hd⟩ := encode_sampleMessage
  have bound : ({} : Ledger).bridge.handler sampleResource ≠ Address.zero := by
    rw [handler_fresh]
    exact fungibleHandler_ne_zero
  have connected : ∃ rc, sampleUnwatched.relayChain sampleAccepted.retryPolicy sample.relayer = .ok rc ∧
      rc.writer.watchLimit = 0 ∧ rc.writer.relayer = sample.relayer := ⟨_, rfl, rfl, rfl⟩
  obtain ⟨rc, connected, unwatched, relayer⟩ := connected
  have ends := ends_write_unwatched (s := {}) rc.writer unwatched hd bound rfl rfl List.not_mem_nil
  obtain ⟨t, _, _, written, along, rfl, rfl⟩ := ends.exists_runs fun _ => rfl
  rw [relayer] at along
  exact ⟨rc, _, t, _, connected, Nat.le_refl 1, written, along, passed_voted List.not_mem_nil (Nat.le_refl 1)⟩

end Writer

end BridgeRelay
