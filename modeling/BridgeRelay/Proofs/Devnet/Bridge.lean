import BridgeRelay.Devnet.Bridge
import BridgeRelay.Proofs.Entries
import BridgeRelay.Retry

/-!
# Bridges in memory

A vote, an execution and a cancellation move the status of a proposal forward, and change nothing else of the bridge
that a relayer can see. A vote that is refused comes too late.
-/

namespace BridgeRelay

/-! ## Status -/

namespace ProposalStatus

variable {s s' s'' : ProposalStatus}

/-- How far a proposal has come. From a final status there is no way on. -/
def rank : ProposalStatus → Nat
  | inactive => 0
  | active => 1
  | passed => 2
  | executed | cancelled => 3

/-- Whether a proposal takes votes. -/
def isOpen : ProposalStatus → Bool
  | inactive | active => true
  | _ => false

/-- A status is the other one or comes before it. -/
def LeadsTo (s s' : ProposalStatus) : Prop := s = s' ∨ s.rank < s'.rank

theorem LeadsTo.refl (s : ProposalStatus) : s.LeadsTo s := .inl rfl

theorem LeadsTo.trans (h : s.LeadsTo s') (h' : s'.LeadsTo s'') : s.LeadsTo s'' := by
  rcases h with rfl | h
  · exact h'
  · rcases h' with rfl | h'
    · exact .inr h
    · exact .inr (Nat.lt_trans h h')

theorem LeadsTo.eq_of_isTerminal (h : s.LeadsTo s') (hs : s.isTerminal = true) : s' = s := by
  rcases h with rfl | h
  · rfl
  · cases s <;> cases s' <;> simp [rank, isTerminal] at h hs

theorem LeadsTo.of_passed (h : passed.LeadsTo s) : s = passed ∨ s.isTerminal = true := by
  rcases h with rfl | h
  · exact .inl rfl
  · cases s <;> simp [rank, isTerminal] at h ⊢

theorem leadsTo_cancelled (hs : s.isTerminal = false) : s.LeadsTo cancelled := by
  cases s <;> simp [LeadsTo, rank, isTerminal] at hs ⊢

end ProposalStatus

namespace Devnet.Bridge

variable {b b' b'' : Bridge} {k k' : ProposalKey} {r : ProposalRecord} {relayer : Address} {call : BridgeCall}
  {e : ChainError}

/-! ## Records -/

@[simp] theorem record_setRecord_self : (b.setRecord k r).record k = r := by
  simp [record, setRecord]

theorem record_setRecord_of_ne (h : k' ≠ k) : (b.setRecord k r).record k' = b.record k' := by
  rw [record, setRecord, lookup_set_of_ne h, record]

/-! ## Going on -/

/-- One bridge becomes another: each status stays or moves forward. -/
structure Onward (b b' : Bridge) : Prop where
  handlers : b'.handlers = b.handlers
  readFailures : b'.readFailures = b.readFailures
  status (k : ProposalKey) : (b.record k).status.LeadsTo (b'.record k).status

theorem Onward.refl (b : Bridge) : Onward b b := ⟨rfl, rfl, fun _ => .refl _⟩

theorem Onward.trans (h : Onward b b') (h' : Onward b' b'') : Onward b b'' :=
  ⟨h'.handlers.trans h.handlers, h'.readFailures.trans h.readFailures, fun k => (h.status k).trans (h'.status k)⟩

theorem onward_setRecord (h : (b.record k).status.LeadsTo r.status) : Onward b (b.setRecord k r) := by
  refine ⟨rfl, rfl, fun k' => ?_⟩
  by_cases hk : k' = k
  · subst hk
    rw [record_setRecord_self]
    exact h
  · rw [record_setRecord_of_ne hk]
    exact .refl _

theorem open_of_vote (h : b.vote k relayer = .ok b') : (b.record k).status.isOpen = true ∧
    b' = b.setRecord k (ProposalRecord.withVote (b.record k) b.threshold relayer) := by
  unfold vote at h
  dsimp only at h
  split at h
  case h_4 hs | h_5 hs =>
    split at h
    · cases h
    · exact ⟨by rw [hs]; rfl, (Except.ok.inj h).symm⟩
  all_goals cases h

theorem vote_of_open (hs : (b.record k).status.isOpen = true) (hv : relayer ∉ (b.record k).voters) :
    b.vote k relayer = .ok (b.setRecord k (ProposalRecord.withVote (b.record k) b.threshold relayer)) := by
  unfold vote
  cases h : (b.record k).status <;> simp_all [ProposalStatus.isOpen]

theorem onward_vote (h : b.vote k relayer = .ok b') : Onward b b' := by
  obtain ⟨hs, rfl⟩ := open_of_vote h
  refine onward_setRecord ?_
  simp only [ProposalRecord.withVote]
  cases hr : (b.record k).status <;> rw [hr] at hs
  case inactive | active => split <;> simp [ProposalStatus.LeadsTo, ProposalStatus.rank]
  all_goals cases hs

theorem passed_of_execute (h : b.execute k = .ok b') :
    (b.record k).status = .passed ∧ b' = b.setRecord k { b.record k with status := .executed } := by
  unfold execute at h
  dsimp only at h
  split at h
  case h_1 hs => exact ⟨hs, (Except.ok.inj h).symm⟩
  all_goals cases h

theorem execute_of_passed (h : (b.record k).status = .passed) :
    b.execute k = .ok (b.setRecord k { b.record k with status := .executed }) := by
  simp [execute, h]

theorem onward_execute (h : b.execute k = .ok b') : Onward b b' := by
  obtain ⟨hs, rfl⟩ := passed_of_execute h
  exact onward_setRecord (by simp [hs, ProposalStatus.LeadsTo, ProposalStatus.rank])

theorem onward_apply (h : b.apply relayer call = .ok b') : Onward b b' := by
  obtain ⟨_ | _, p⟩ := call
  · exact onward_vote h
  · exact onward_execute h

theorem onward_cancel (h : (b.record k).status.isTerminal = false) : Onward b (b.force k .cancelled) :=
  onward_setRecord (ProposalStatus.leadsTo_cancelled h)

/-! ## Tallies -/

/-- The votes for a proposal once that of a relayer is among them. -/
def tally (b : Bridge) (k : ProposalKey) (relayer : Address) : Nat :=
  if relayer ∈ (b.record k).voters then (b.record k).voters.length else (b.record k).voters.length + 1

/-- A proposal that takes votes has none or too few. -/
def Counted (b : Bridge) : Prop :=
  ∀ k, (b.record k).status.isOpen = true → (b.record k).voters ≠ [] → (b.record k).voters.length < b.threshold

theorem counted_setRecord (hb : b.Counted)
    (hr : r.status.isOpen = true → r.voters ≠ [] → r.voters.length < b.threshold) : (b.setRecord k r).Counted := by
  intro k' hs hv
  by_cases hk : k' = k
  · subst hk
    rw [record_setRecord_self] at hs hv ⊢
    exact hr hs hv
  · rw [record_setRecord_of_ne hk] at hs hv ⊢
    exact hb k' hs hv

/-- Votes are counted when they are cast. -/
theorem counted_apply (hb : b.Counted) (h : b.apply relayer call = .ok b') : b'.Counted := by
  obtain ⟨_ | _, p⟩ := call
  · obtain ⟨-, rfl⟩ := open_of_vote h
    refine counted_setRecord hb fun hs _ => ?_
    simp only [ProposalRecord.withVote] at hs ⊢
    split at hs
    · cases hs
    · omega
  · obtain ⟨-, rfl⟩ := passed_of_execute h
    exact counted_setRecord hb nofun

/-- The vote with which a tally reaches the threshold lets the proposal pass. -/
theorem passed_withVote (hv : relayer ∉ (b.record k).voters) (enough : b.threshold ≤ b.tally k relayer) :
    (ProposalRecord.withVote (b.record k) b.threshold relayer).status = .passed := by
  rw [tally, if_neg hv] at enough
  simp [ProposalRecord.withVote, enough]

/-! ## Refusals -/

/-- A vote is refused only once it is recorded or no longer needed. -/
theorem alreadyProcessed_of_vote (h : b.vote k relayer = .error e) : ErrorClass.ofError e = .alreadyProcessed := by
  unfold vote at h
  dsimp only at h
  split at h
  case h_4 | h_5 =>
    split at h
    · cases h
      decide +kernel
    · cases h
  all_goals
    cases h
    decide +kernel

theorem not_passed_of_execute (h : b.execute k = .error e) : (b.record k).status ≠ .passed := by
  intro hs
  simp [execute, hs] at h

theorem reverted_of_apply (h : b.apply relayer call = .error e) : ∃ reason, e = .reverted reason := by
  obtain ⟨_ | _, p⟩ := call
  all_goals
    simp only [apply, vote, execute] at h
    repeat' split at h
    all_goals cases h
  all_goals exact ⟨_, rfl⟩

end Devnet.Bridge

end BridgeRelay
