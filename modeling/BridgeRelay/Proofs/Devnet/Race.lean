import BridgeRelay.Devnet.Node
import BridgeRelay.Proofs.Devnet.Bridge
import BridgeRelay.Proofs.Program.Endings
import Mathlib.Logic.Function.Basic
import Mathlib.Logic.Relation

/-!
# Races at a bridge

A bridge that answers one relayer while others vote, execute and cancel. Its node is never in trouble, and receipts
are there at once.
-/

namespace BridgeRelay.Devnet

open Program Function

/-- Who executed a proposal: the relayer or one of the others. -/
inductive Executor where
  | own
  | other
  deriving DecidableEq

/-- A bridge, and who executed each proposal, the latest first. -/
structure Race where
  bridge : Bridge := {}
  executions : ProposalKey → List Executor := fun _ => []

namespace Race

variable {s s' s'' : Race} {k : ProposalKey} {b : Bridge} {call : BridgeCall} {relayer : Address} {α : Type}

/-! ## The world -/

/-- What others do: they vote and execute, and an admin cancels what is not final. -/
inductive Move (s : Race) : Race → Prop where
  | vote {k : ProposalKey} {voter : Address} {b : Bridge} (h : s.bridge.vote k voter = .ok b) :
      Move s { s with bridge := b }
  | execute {k : ProposalKey} {b : Bridge} (h : s.bridge.execute k = .ok b) :
      Move s ⟨b, update s.executions k (.other :: s.executions k)⟩
  | cancel {k : ProposalKey} (h : (s.bridge.record k).status.isTerminal = false) :
      Move s { s with bridge := s.bridge.force k .cancelled }

/-- The race after a call of the relayer that left the bridge so. -/
def accept (s : Race) (call : BridgeCall) (b : Bridge) : Race :=
  match call.kind with
  | .vote => { s with bridge := b }
  | .execute => ⟨b, update s.executions (.of call.proposal) (.own :: s.executions (.of call.proposal))⟩

/-- How the relayer is answered. The host and the locks answer anything, and so does the fee market. -/
def Reply (relayer : Address) (s : Race) : Exchange WriterInterface → Race → Prop
  | ⟨.chain (.handler r), a⟩, s' => a = .ok (s.bridge.handler r) ∧ s' = s
  | ⟨.chain (.proposal origin nonce dataHash), a⟩, s' =>
      a = (s.bridge.readState ⟨origin, nonce, dataHash⟩).1 ∧
        s' = { s with bridge := (s.bridge.readState ⟨origin, nonce, dataHash⟩).2 }
  | ⟨.chain (.hasVoted p voter), a⟩, s' => a = .ok (s.bridge.hasVoted (.of p) voter) ∧ s' = s
  | ⟨.chain (.send call _), a⟩, s' => match s.bridge.apply relayer call with
      | .error e => a = .error e ∧ s' = s
      | .ok b => (∃ tx, a = .ok tx) ∧ s' = s.accept call b
  | ⟨.chain (.receipt _), a⟩, s' => a = .ok (some true) ∧ s' = s
  | ⟨.chain .pendingNonce, a⟩, s' => (∃ nonce, a = .ok nonce) ∧ s' = s
  | ⟨.chain .gasPrice, a⟩, s' => (∃ price, a = .ok price) ∧ s' = s
  | ⟨.chain .baseFee, a⟩, s' => (∃ fee, a = .ok fee) ∧ s' = s
  | ⟨.chain .priorityFee, a⟩, s' => (∃ tip, a = .ok tip) ∧ s' = s
  | _, s' => s' = s

/-- The bridge as one of its relayers meets it: before each request the others may make any number of moves. -/
def world (relayer : Address) : World WriterInterface Race where
  drift := Relation.ReflTransGen Move
  permits _ _ := True
  reply := Reply relayer

/-! ## What stays -/

/-- Records can be read, and only what was executed counts as executed. -/
structure Sound (s : Race) : Prop where
  readable : s.bridge.readFailures = []
  executed (k : ProposalKey) : s.executions k ≠ [] → (s.bridge.record k).status = .executed

/-- A proposal was executed once, by the relayer. -/
structure Won (s : Race) (k : ProposalKey) : Prop where
  status : (s.bridge.record k).status = .executed
  executions : s.executions k = [.own]

/-- One race becomes another: statuses move forward, and what was executed is not executed again. -/
structure Onward (s s' : Race) : Prop where
  bridge : Bridge.Onward s.bridge s'.bridge
  sound : s.Sound → s'.Sound
  final (k : ProposalKey) : (s.bridge.record k).status = .executed → s'.executions k = s.executions k

theorem Onward.refl (s : Race) : Onward s s := ⟨.refl _, id, fun _ _ => rfl⟩

theorem Onward.executed (h : Onward s s') (hs : (s.bridge.record k).status = .executed) :
    (s'.bridge.record k).status = .executed := by
  rw [(h.bridge.status k).eq_of_isTerminal (by rw [hs]; rfl), hs]

theorem Onward.trans (h : Onward s s') (h' : Onward s' s'') : Onward s s'' :=
  ⟨h.bridge.trans h'.bridge, fun hs => h'.sound (h.sound hs),
    fun k hk => (h'.final k (h.executed hk)).trans (h.final k hk)⟩

theorem Won.onward (hw : s.Won k) (h : Onward s s') : s'.Won k :=
  ⟨h.executed hw.status, (h.final k hw.status).trans hw.executions⟩

theorem onward_of_bridge (h : Bridge.Onward s.bridge b) : Onward s { s with bridge := b } := by
  refine ⟨h, fun hs => ⟨h.readFailures.trans hs.readable, fun k hk => ?_⟩, fun _ _ => rfl⟩
  have executed := hs.executed k hk
  rw [(h.status k).eq_of_isTerminal (by rw [executed]; rfl), executed]

theorem onward_execute (h : s.bridge.execute k = .ok b) (executor : Executor) :
    Onward s ⟨b, update s.executions k (executor :: s.executions k)⟩ := by
  have onward := Bridge.onward_execute h
  obtain ⟨hp, rfl⟩ := Bridge.passed_of_execute h
  refine ⟨onward, fun hs => ⟨hs.readable, fun k' hk' => ?_⟩, fun k' hk' => ?_⟩
  · by_cases hk : k' = k
    · subst hk
      simp
    · rw [Bridge.record_setRecord_of_ne hk]
      exact hs.executed k' (by simpa [hk] using hk')
  · have : k' ≠ k := by
      rintro rfl
      simp [hp] at hk'
    simp [this]

theorem onward_accept (h : s.bridge.apply relayer call = .ok b) : Onward s (s.accept call b) := by
  obtain ⟨_ | _, p⟩ := call
  · exact onward_of_bridge (Bridge.onward_vote h)
  · exact onward_execute h .own

/-- An execution of the relayer that is accepted is the only one. -/
theorem won_accept {p : Proposal} (hs : s.Sound) (h : s.bridge.apply relayer (.execute p) = .ok b) :
    (s.accept (.execute p) b).Won (.of p) := by
  obtain ⟨hp, rfl⟩ := Bridge.passed_of_execute h
  have none : s.executions (.of p) = [] := by
    by_contra hne
    rw [hs.executed _ hne] at hp
    cases hp
  exact ⟨by simp [accept], by simp [accept, none]⟩

theorem onward_of_move (h : Move s s') : Onward s s' := by
  cases h with
  | vote h => exact onward_of_bridge (Bridge.onward_vote h)
  | execute h => exact onward_execute h .other
  | cancel h => exact onward_of_bridge (Bridge.onward_cancel h)

theorem onward_of_drift (h : (world relayer).drift s s') : Onward s s' := by
  induction h with
  | refl => exact .refl s
  | tail _ hm ih => exact ih.trans (onward_of_move hm)

/-! ## Requests -/

section

variable {Q : α → Race → Prop} {r : WriterRequest} {next : WriterInterface.Answer r → Program WriterInterface α}

theorem ends_ask (h : ∀ s₁, Onward s s₁ → (∃ a s₂, Reply relayer s₁ ⟨r, a⟩ s₂) ∧
    ∀ a s₂, Reply relayer s₁ ⟨r, a⟩ s₂ → (next a).Ends (world relayer) Q s₂) :
    (ask r next).Ends (world relayer) Q s :=
  .ask rfl (fun _ hd => (h _ (onward_of_drift hd)).1) fun _ _ _ hd => (h _ (onward_of_drift hd)).2 _ _

end

/-! ## Runs -/

theorem along_cons {x : Exchange WriterInterface} {t : List (Exchange WriterInterface)} (hx : Reply relayer s x s')
    (rest : (world relayer).Along s' t s'') : (world relayer).Along s (x :: t) s'' :=
  .cons .refl hx rest

theorem along_idle {t : List (Exchange WriterInterface)} (h : ∀ x ∈ t, Reply relayer s x s) :
    (world relayer).Along s t s := by
  induction t with
  | nil => exact .nil
  | cons x t ih =>
      obtain ⟨hx, ht⟩ := List.forall_mem_cons.mp h
      exact along_cons hx (ih ht)

/-! ## Calls -/

/-- How the bridge answered a call of the relayer some time ago: with nothing if it was accepted. -/
inductive Answered (relayer : Address) (call : BridgeCall) (s : Race) : Option ChainError → Race → Prop where
  | accepted {s₁ s' : Race} {b : Bridge} (before : s.Onward s₁) (h : s₁.bridge.apply relayer call = .ok b)
      (after : (s₁.accept call b).Onward s') : Answered relayer call s none s'
  | refused {s₁ s' : Race} {e : ChainError} (before : s.Onward s₁) (h : s₁.bridge.apply relayer call = .error e)
      (after : s₁.Onward s') : Answered relayer call s (some e) s'

variable {e : Option ChainError}

theorem Answered.onward (h : Answered relayer call s e s') : s.Onward s' := by
  cases h with
  | accepted before h after => exact (before.trans (onward_accept h)).trans after
  | refused before h after => exact before.trans after

/-! ## Nodes -/

theorem bridge_accept : (s.accept call b).bridge = b := by
  obtain ⟨_ | _, p⟩ := call <;> rfl

end Race

/-- Nothing was done to the node: no answer is scripted, and no transaction is refused or lost. -/
structure Node.Plain (n : Node) : Prop where
  script : n.script = {}
  hasBridge : n.hasBridge = true
  failures : n.account.failures = []
  lost : n.account.lost = []
  loseNext : n.account.loseNext = false

namespace Node.Plain

variable {n : Node} {call : BridgeCall} {o : TransactionOptions} {b : Bridge} {e : ChainError}

/-- A call that the bridge refuses is only counted. -/
theorem send_refused (hn : n.Plain) (h : n.bridge.apply n.account.sender call = .error e) :
    n.answerDestination (.send call o) =
      (.error e, { n with account := { n.account with attempts := n.account.attempts + 1 } }) := by
  obtain ⟨source, bridge, ⟨sender, chainNonce, failures, attempts, sent, loseNext, lost⟩, hasBridge, fees, script⟩ := n
  obtain ⟨rfl, rfl, rfl, rfl, rfl⟩ := hn
  simp [answerDestination, Failures.next, Node.send, Account.send, Functor.map, Except.map, h]

/-- A call that the bridge takes is noted, and not lost. -/
theorem send_accepted (hn : n.Plain) (h : n.bridge.apply n.account.sender call = .ok b) :
    ∃ tx chainNonce, n.answerDestination (.send call o) = (.ok tx, { n with
      account := { n.account with
        chainNonce, attempts := n.account.attempts + 1, sent := ⟨call, o, tx⟩ :: n.account.sent }
      bridge := b }) := by
  obtain ⟨source, bridge, ⟨sender, chainNonce, failures, attempts, sent, loseNext, lost⟩, hasBridge, fees, script⟩ := n
  obtain ⟨rfl, rfl, rfl, rfl, rfl⟩ := hn
  refine ⟨.ofNat 32 (attempts + 1), max chainNonce (o.nonce + 1), ?_⟩
  simp [answerDestination, Failures.next, Node.send, Account.send, Account.accept, Functor.map, Except.map, h]

/-- A plain node answers its account as a race does, and stays plain. -/
theorem reply (hn : n.Plain) (executions : ProposalKey → List Executor) (q : DestinationQuery) :
    (n.answerDestination q).2.Plain ∧ ∃ executions',
      Race.Reply n.account.sender ⟨n.bridge, executions⟩ ⟨.chain q, (n.answerDestination q).1⟩
        ⟨(n.answerDestination q).2.bridge, executions'⟩ := by
  cases q with
  | send call o =>
      cases h : n.bridge.apply n.account.sender call with
      | error e =>
          rw [hn.send_refused h]
          exact ⟨⟨hn.script, hn.hasBridge, hn.failures, hn.lost, hn.loseNext⟩, executions, by simp [Race.Reply, h]⟩
      | ok b =>
          obtain ⟨tx, chainNonce, accepted⟩ := hn.send_accepted (o := o) h
          rw [accepted]
          refine ⟨⟨hn.script, hn.hasBridge, hn.failures, hn.lost, hn.loseNext⟩,
            (Race.accept ⟨n.bridge, executions⟩ call b).executions, ?_⟩
          simp only [Race.Reply, h]
          exact ⟨⟨tx, rfl⟩, congrArg (Race.mk · _) Race.bridge_accept.symm⟩
  | _ =>
      obtain ⟨source, bridge, ⟨sender, chainNonce, failures, attempts, sent, loseNext, lost⟩, hasBridge, fees, script⟩ := n
      obtain ⟨rfl, rfl, rfl, rfl, rfl⟩ := hn
      refine ⟨⟨rfl, rfl, rfl, rfl, rfl⟩, executions, ?_⟩
      simp [Race.Reply, answerDestination, Answers.next, Account.receipt]

end Node.Plain

end BridgeRelay.Devnet
