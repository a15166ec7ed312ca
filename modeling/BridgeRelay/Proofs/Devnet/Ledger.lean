import BridgeRelay.Proofs.Devnet.Race
import BridgeRelay.Proofs.Writer.Service

/-!
# Bridges with one relayer

A bridge on which nobody but one relayer acts, and the calls that it accepted. A plain node shows such a bridge to the
writer that has it for itself.
-/

namespace BridgeRelay.Devnet

open Program

/-- A bridge and the calls that it accepted, the latest first. -/
structure Ledger where
  bridge : Bridge := {}
  calls : List BridgeCall := []

namespace Ledger

variable {s s' : Ledger} {b : Bridge} {call : BridgeCall} {relayer : Address}

/-- The ledger after a call that left the bridge so. -/
def accept (s : Ledger) (call : BridgeCall) (b : Bridge) : Ledger := ⟨b, call :: s.calls⟩

/-- How the relayer is answered. Nobody stops it, and the node is never in trouble. -/
def Reply (relayer : Address) (s : Ledger) : Exchange WriterInterface → Ledger → Prop
  | ⟨.chain (.handler r), a⟩, s' => a = .ok (s.bridge.handler r) ∧ s' = s
  | ⟨.chain (.proposal origin nonce dataHash), a⟩, s' =>
      a = .ok (s.bridge.record ⟨origin, nonce, dataHash⟩).state ∧ s' = s
  | ⟨.chain (.hasVoted p voter), a⟩, s' => a = .ok (s.bridge.hasVoted (.of p) voter) ∧ s' = s
  | ⟨.chain (.send call _), a⟩, s' => match s.bridge.apply relayer call with
      | .error e => a = .error e ∧ s' = s
      | .ok b => (∃ tx, a = .ok tx) ∧ s' = s.accept call b
  | ⟨.host .stopping, a⟩, s' => a = false ∧ s' = s
  | x, s' => Smooth x ∧ s' = s

/-- The bridge as its only relayer meets it. -/
def world (relayer : Address) : World WriterInterface Ledger where
  permits _ _ := True
  reply := Reply relayer

theorem reply_send {o : TransactionOptions} {a : Except ChainError Hash}
    (h : Reply relayer s ⟨.chain (.send call o), a⟩ s') :
    (∃ e, s.bridge.apply relayer call = .error e ∧ a = .error e ∧ s' = s) ∨
      ∃ b tx, s.bridge.apply relayer call = .ok b ∧ a = .ok tx ∧ s' = s.accept call b := by
  cases hb : s.bridge.apply relayer call with
  | error e =>
      simp only [Reply, hb] at h
      exact .inl ⟨e, rfl, h⟩
  | ok b =>
      simp only [Reply, hb] at h
      obtain ⟨⟨tx, rfl⟩, rfl⟩ := h
      exact .inr ⟨b, tx, rfl, rfl, rfl⟩

theorem reply_aside {r : WriterRequest} (hr : r.IsAside) {a : r.Answer} (h : Reply relayer s ⟨r, a⟩ s') :
    Smooth ⟨r, a⟩ ∧ s' = s := by
  rcases r with (_ | _ | _ | _ | _ | _ | _ | _ | _) | (_ | _ | _ | _ | _ | _) | _ | _ | _ | _
  case host.stopping => exact ⟨trivial, h.2⟩
  all_goals first
    | exact hr.elim
    | exact h

theorem serves : Serves (world relayer) Eq where
  refl _ := rfl
  trans := .trans
  drift := id
  answers {r} hr s := by
    obtain ⟨a, smooth⟩ := exists_smooth hr
    rcases r with (_ | _ | _ | _ | _ | _ | _ | _ | _) | (_ | _ | _ | _ | _ | _) | _ | _ | _ | _
    case host.stopping => exact ⟨false, s, rfl, rfl⟩
    all_goals first
      | exact hr.elim
      | exact ⟨a, s, smooth, rfl⟩
  smooth hx h := by
    obtain ⟨smooth, rfl⟩ := reply_aside hx h
    exact ⟨smooth, rfl⟩
  tries s call o := by
    cases h : s.bridge.apply relayer call with
    | error e => exact ⟨.error e, s, by simp [world, Reply, h]⟩
    | ok b => exact ⟨.ok (.ofNat 32 0), s.accept call b, by simp [world, Reply, h]⟩
  refuses h := by
    obtain ⟨e, refused, ⟨⟩, -⟩ | ⟨_, _, _, ⟨⟩, _⟩ := reply_send h
    obtain ⟨reason, rfl⟩ := Bridge.reverted_of_apply refused
    exact Signer.isFinal_reverted reason

theorem onward_reply {q : DestinationQuery} {a : q.Answer} (h : Reply relayer s ⟨.chain q, a⟩ s') :
    Bridge.Onward s.bridge s'.bridge := by
  cases q with
  | send call o =>
      obtain ⟨_, -, -, rfl⟩ | ⟨b, _, accepted, -, rfl⟩ := reply_send h
      · exact .refl _
      · exact Bridge.onward_apply accepted
  | _ =>
      rw [h.2]
      exact .refl _

/-! ## Completion -/

variable {p : Proposal} {k : ProposalKey}

/-- The ledger after an execution of what has passed. -/
def executed (s : Ledger) (p : Proposal) : Ledger :=
  s.accept (.execute p) (s.bridge.setRecord (.of p) { s.bridge.record (.of p) with status := .executed })

/-- The ledger after a vote of the relayer. -/
def voted (s : Ledger) (relayer : Address) (p : Proposal) : Ledger :=
  s.accept (.vote p) (s.bridge.setRecord (.of p)
    (Bridge.ProposalRecord.withVote (s.bridge.record (.of p)) s.bridge.threshold relayer))

/-- The calls that a proposal lacks. -/
def lacks (s : Ledger) (p : Proposal) : List BridgeCall :=
  match (s.bridge.record (.of p)).status with
  | .inactive | .active => [.vote p, .execute p]
  | .passed => [.execute p]
  | .executed | .cancelled => []

/-- One ledger becomes another by the calls that a proposal lacks, and the proposal is executed. -/
structure Completed (p : Proposal) (s s' : Ledger) : Prop where
  status : (s'.bridge.record (.of p)).status = .executed
  calls : s'.calls = (s.lacks p).reverse ++ s.calls
  others (k : ProposalKey) : k ≠ .of p → s'.bridge.record k = s.bridge.record k
  threshold : s'.bridge.threshold = s.bridge.threshold
  handlers : s'.bridge.handlers = s.bridge.handlers

theorem completed_self (h : (s.bridge.record (.of p)).status = .executed) : Completed p s s where
  status := h
  calls := by simp [lacks, h]
  others _ _ := rfl
  threshold := rfl
  handlers := rfl

theorem completed_executed (h : (s.bridge.record (.of p)).status = .passed) : Completed p s (s.executed p) where
  status := by simp [executed, accept]
  calls := by simp [executed, accept, lacks, h]
  others _ hk := Bridge.record_setRecord_of_ne hk
  threshold := rfl
  handlers := rfl

theorem passed_voted (hv : relayer ∉ (s.bridge.record (.of p)).voters)
    (enough : s.bridge.threshold ≤ s.bridge.tally (.of p) relayer) :
    ((s.voted relayer p).bridge.record (.of p)).status = .passed := by
  simpa [voted, accept] using Bridge.passed_withVote hv enough

theorem completed_voted (hs : (s.bridge.record (.of p)).status.isOpen = true)
    (hv : relayer ∉ (s.bridge.record (.of p)).voters)
    (enough : s.bridge.threshold ≤ s.bridge.tally (.of p) relayer) :
    Completed p s ((s.voted relayer p).executed p) where
  status := (completed_executed (passed_voted hv enough)).status
  calls := by
    cases h : (s.bridge.record (.of p)).status <;> rw [h] at hs
    case inactive | active => simp [executed, voted, accept, lacks, h]
    all_goals cases hs
  others _ hk := (Bridge.record_setRecord_of_ne hk).trans (Bridge.record_setRecord_of_ne hk)
  threshold := rfl
  handlers := rfl

/-! ## Ledgers in order -/

/-- Each proposal of the list, and no other, was voted for and executed right after, on a bridge that asks for one vote.
All of them were due. -/
structure Tidy (due : Proposal → Prop) (ps : List Proposal) (s : Ledger) : Prop where
  distinct : (ps.map ProposalKey.of).Nodup
  calls : s.calls.reverse = ps.flatMap fun p => [.vote p, .execute p]
  threshold : s.bridge.threshold = 1
  handlers : s.bridge.handlers = ({} : Bridge).handlers
  executed (k : ProposalKey) : k ∈ ps.map ProposalKey.of → (s.bridge.record k).status = .executed
  untouched (k : ProposalKey) : k ∉ ps.map ProposalKey.of → s.bridge.record k = {}
  due (p : Proposal) : p ∈ ps → due p

variable {due : Proposal → Prop} {ps : List Proposal}

theorem tidy_fresh : Tidy due [] {} where
  distinct := .nil
  calls := rfl
  threshold := rfl
  handlers := rfl
  executed _ h := absurd h List.not_mem_nil
  untouched _ _ := rfl
  due _ h := absurd h List.not_mem_nil

theorem Tidy.executed_iff (h : Tidy due ps s) :
    (s.bridge.record k).status = .executed ↔ k ∈ ps.map ProposalKey.of := by
  refine ⟨fun executed => ?_, h.executed k⟩
  by_contra hk
  rw [h.untouched k hk] at executed
  cases executed

theorem Tidy.counted (h : Tidy due ps s) : s.bridge.Counted := by
  intro k hs hv
  by_cases hk : k ∈ ps.map ProposalKey.of
  · rw [h.executed k hk] at hs
    cases hs
  · exact absurd (by rw [h.untouched k hk]) hv

theorem Tidy.uncancelled (h : Tidy due ps s) : (s.bridge.record k).status ≠ .cancelled := by
  by_cases hk : k ∈ ps.map ProposalKey.of
  · simp [h.executed k hk]
  · simp [h.untouched k hk]

theorem Tidy.enough (h : Tidy due ps s) : s.bridge.threshold ≤ s.bridge.tally k relayer := by
  rw [h.threshold, Bridge.tally]
  split
  · next voted => exact List.length_pos_of_mem voted
  · exact Nat.le_add_left ..

/-- The completion of a proposal that is due keeps the ledger in order. -/
theorem Tidy.completed (h : Tidy due ps s) (hp : due p) (hc : Completed p s s') : ∃ ps', Tidy due ps' s' := by
  by_cases hk : ProposalKey.of p ∈ ps.map ProposalKey.of
  · refine ⟨ps, h.distinct, ?_, hc.threshold.trans h.threshold, hc.handlers.trans h.handlers, fun k hk' => ?_,
      fun k hk' => ?_, h.due⟩
    · rw [hc.calls, lacks, h.executed _ hk]
      exact h.calls
    · by_cases same : k = .of p
      · exact same ▸ hc.status
      · rw [hc.others k same, h.executed k hk']
    · rw [hc.others k fun same => hk' (same ▸ hk), h.untouched k hk']
  · refine ⟨ps ++ [p], ?_, ?_, hc.threshold.trans h.threshold, hc.handlers.trans h.handlers, fun k hk' => ?_,
      fun k hk' => ?_, ?_⟩
    · refine (List.map_append ..).symm ▸ List.nodup_append.mpr ⟨h.distinct, List.pairwise_singleton .., ?_⟩
      rintro k hk' _ (_ | ⟨_, ⟨⟩⟩) rfl
      exact hk hk'
    · rw [hc.calls, lacks, h.untouched _ hk, List.reverse_append, h.calls]
      simp
    · by_cases same : k = .of p
      · exact same ▸ hc.status
      · rw [hc.others k same]
        exact h.executed k (by simpa [same] using hk')
    · simp only [List.map_append, List.map_cons, List.map_nil, List.mem_append, List.mem_singleton, not_or] at hk'
      rw [hc.others k hk'.2, h.untouched k hk'.1]
    · intro q hq
      obtain hq | rfl := (List.mem_append.mp hq).imp_right List.mem_singleton.mp
      · exact h.due q hq
      · exact hp

end Ledger

/-! ## Nodes -/

namespace Bridge

variable {b : Bridge} {k : ProposalKey} {call : BridgeCall} {relayer : Address}

/-- The bridge as if no record had been read. -/
def unread (b : Bridge) : Bridge := { b with stateReads := 0 }

@[simp] theorem record_unread : b.unread.record k = b.record k := rfl

/-- What a bridge does with a call does not depend on the reads before. -/
theorem apply_unread : b.unread.apply relayer call = (b.apply relayer call).map unread := by
  obtain ⟨_ | _, p⟩ := call
  · simp only [apply, vote, record_unread]
    cases (b.record (.of p)).status
    case inactive | active =>
      dsimp only
      rw [apply_ite (Except.map unread)]
      rfl
    all_goals rfl
  · simp only [apply, execute, record_unread]
    cases (b.record (.of p)).status <;> rfl

end Bridge

namespace Node

variable {n : Node}

/-- What a node shows of its destination side. -/
def ledger (n : Node) : Ledger := ⟨n.bridge.unread, n.account.sent.map SentTransaction.call⟩

theorem record_ledger (n : Node) (k : ProposalKey) : n.ledger.bridge.record k = n.bridge.record k := rfl

/-- A plain node whose records can be read, too. -/
structure Calm (n : Node) : Prop where
  plain : n.Plain
  readable : n.bridge.readFailures = []

/-- A calm node answers its account as a ledger does, and stays calm. -/
theorem Calm.reply (hn : n.Calm) (q : DestinationQuery) :
    (n.answerDestination q).2.Calm ∧ (n.answerDestination q).2.source = n.source ∧
      (n.answerDestination q).2.account.sender = n.account.sender ∧
      Ledger.Reply n.account.sender n.ledger ⟨.chain q, (n.answerDestination q).1⟩ (n.answerDestination q).2.ledger := by
  obtain ⟨plain, readable⟩ := hn
  cases q with
  | send call o =>
      cases h : n.bridge.apply n.account.sender call with
      | error e =>
          rw [plain.send_refused h]
          refine ⟨⟨⟨plain.script, plain.hasBridge, plain.failures, plain.lost, plain.loseNext⟩, readable⟩, rfl, rfl, ?_⟩
          simp [Ledger.Reply, ledger, Bridge.apply_unread, h, Except.map]
      | ok b =>
          obtain ⟨tx, chainNonce, accepted⟩ := plain.send_accepted (o := o) h
          rw [accepted]
          refine ⟨⟨⟨plain.script, plain.hasBridge, plain.failures, plain.lost, plain.loseNext⟩,
            (Bridge.onward_apply h).readFailures.trans readable⟩, rfl, rfl, ?_⟩
          simp [Ledger.Reply, ledger, Bridge.apply_unread, h, Except.map, Ledger.accept]
  | _ =>
      obtain ⟨source, bridge, ⟨sender, chainNonce, failures, attempts, sent, loseNext, lost⟩, hasBridge, fees, script⟩ := n
      obtain ⟨threshold, handlers, proposals, stateReads, readFailures⟩ := bridge
      obtain ⟨rfl, rfl, rfl, rfl, rfl⟩ := plain
      cases readable
      refine ⟨⟨⟨rfl, rfl, rfl, rfl, rfl⟩, rfl⟩, rfl, rfl, ?_⟩
      first | exact ⟨rfl, rfl⟩ | exact ⟨⟨_, rfl⟩, rfl⟩

/-- A calm node answers as its source chain does, which notes what it was asked. -/
theorem Calm.source_reply (hn : n.Calm) (sound : n.source.failure = none) (q : SourceQuery) :
    (n.answerSource q).1 = (n.source.answer q).1 ∧
      ∃ queries, (n.answerSource q).2 = { n with source := { n.source with queries } } := by
  obtain ⟨source, bridge, account, hasBridge, fees, script⟩ := n
  obtain ⟨rfl, -, -, -, -⟩ := hn.plain
  obtain ⟨head, logs, handler, queries, failure⟩ := source
  cases sound
  cases q <;> exact ⟨rfl, _, rfl⟩

end Node

end BridgeRelay.Devnet
