import BridgeRelay.Proofs.Program.Work
import BridgeRelay.Proofs.Signer.Verdict
import BridgeRelay.Proofs.Writer.Requests

/-!
# Work of a message

How much a writer asks of its chain for one message, whatever the answers are. Each reading may be made as often as the
policy of reads allows, and each call broadcast as often as that of calls. A proposal is looked at before its vote, after a
vote or an execution that failed, and as often as it is watched, so that the readings of a message add up.
-/

namespace BridgeRelay

open Program Destination

/-- The attempts that a policy allows. The first one is made in any case. -/
def RetryPolicy.attempts (r : RetryPolicy) : Nat := max 1 r.maxAttempts

namespace Writer

/-- What a reading of each kind, and a broadcast, weigh. -/
structure Tariff where
  handler : Nat := 0
  record : Nat := 0
  vote : Nat := 0
  send : Nat := 0

/-- What a request weighs. -/
def Tariff.weight (τ : Tariff) : WriterRequest → Nat
  | .chain (.handler _) => τ.handler
  | .chain (.proposal ..) => τ.record
  | .chain (.hasVoted ..) => τ.vote
  | .chain (.send ..) => τ.send
  | _ => 0

variable {w : Writer} {m : Message} {p : Proposal} {τ : Tariff} {α : Type} {cost : Nat}

/-! ## Readings and calls -/

theorem weight_of_waiting {r : WriterRequest} (h : r.IsWaiting) : τ.weight r = 0 := by
  rcases r with (_ | _ | _ | _ | _ | _ | _ | _ | _) | _ | _ | _ <;> first | exact h.elim | rfl

theorem weight_of_submission {call : BridgeCall} {r : WriterRequest} (h : Signer.OfSubmission call r) :
    τ.weight r = τ.send * r.isSend.toNat := by
  rcases r with (_ | _ | _ | _ | _ | _ | _ | _ | _) | _ | _ | _ | _ | _ <;>
    first | exact h.elim | simp [Tariff.weight, WriterRequest.isSend]

theorem costs_sleep {r : RetryPolicy} {n : Nat} : (r.sleep n : Program WriterInterface Unit).Costs τ.weight 0 := by
  refine Asks.costs (Asks.bind (Signer.asks_require.mono fun _ => weight_of_waiting) fun d => ?_)
  exact ⟨rfl, fun _ => trivial⟩

theorem costs_readFrom {r : RetryPolicy} {op : Program WriterInterface (Except ChainError α)}
    (h : op.Costs τ.weight cost) (n left : Nat) : (r.readFrom op n left).Costs τ.weight (cost + left * cost) := by
  induction left generalizing n with
  | zero => exact h.mono (Nat.le_add_right ..)
  | succ left ih =>
      refine Costs.bind h ?_
      rintro (e | a)
      · dsimp only
        split
        · exact (Costs.bind costs_sleep fun _ => ih (n + 1)).mono (Nat.le_of_eq (by rw [Nat.succ_mul]; omega))
        · exact .done _
      · exact .done _

/-- A reading is made as often as the policy allows. -/
theorem costs_read {op : Program WriterInterface (Except ChainError α)} (h : op.Costs τ.weight cost) :
    (w.read op).Costs τ.weight (w.readRetry.attempts * cost) := by
  have calls : cost + (w.readRetry.maxAttempts - 1) * cost = w.readRetry.attempts * cost := by
    rw [Nat.add_comm, ← Nat.succ_mul]
    congr 1
    unfold RetryPolicy.attempts
    omega
  refine Costs.bind_free (calls ▸ costs_readFrom h 0 _) ?_
  rintro (e | a) <;> exact .done _

theorem costs_readState : (w.readState p).Costs τ.weight (w.readRetry.attempts * τ.record) := costs_read (costs_ask _)

theorem costs_readVote : (w.readVote p).Costs τ.weight (w.readRetry.attempts * τ.vote) := costs_read (costs_ask _)

/-- A call is broadcast as often as the policy allows. -/
theorem costs_submit {s : Signer} {call : BridgeCall} :
    (s.submit call).Costs τ.weight (s.retry.attempts * τ.send) := by
  intro t q hr
  have sends : (t.countP fun x => x.request.isSend) ≤ s.retry.attempts :=
    (Signer.submitFrom_sends (Nat.le_refl 0) (Nat.le_max_left ..) (Nat.le_max_right ..)).countP_le hr
  have weighs : work τ.weight t = τ.send * work (fun r : WriterRequest => r.isSend.toNat) t :=
    work_eq_mul fun x hx => weight_of_submission (Signer.asks_submit.runs hr x hx)
  rw [weighs, work_eq_countP (fun _ => rfl), Nat.mul_comm]
  exact Nat.mul_le_mul_right _ sends

/-! ## Steps -/

theorem costs_settle {failure : Option TransactionError} :
    (w.settle p failure).Costs τ.weight (w.readRetry.attempts * τ.record) := by
  refine Costs.bind_free costs_readState ?_
  rintro (e | state)
  · exact .done _
  · dsimp only
    split
    · exact .done _
    · cases failure <;> exact .done _

theorem costs_execute : (w.execute p).Costs τ.weight
    (w.signer.retry.attempts * τ.send + w.readRetry.attempts * τ.record) := by
  refine Costs.bind costs_submit ?_
  rintro (e | tx | _)
  · exact costs_settle
  · exact Asks.costs ⟨rfl, fun _ => trivial⟩
  · exact costs_settle

theorem costs_watch (left : Nat) : (w.watch p left).Costs τ.weight
    (left * (w.readRetry.attempts * τ.record) +
      (w.signer.retry.attempts * τ.send + w.readRetry.attempts * τ.record)) := by
  induction left with
  | zero => exact .done _
  | succ left ih =>
      rw [Nat.succ_mul, Nat.add_comm (left * _), Nat.add_assoc]
      refine Asks.costs_bind ⟨rfl, fun _ => trivial⟩ ?_
      rintro (_ | _)
      · refine Costs.bind costs_readState ?_
        rintro (e | ⟨_ | _ | _ | _ | _, votes, block⟩)
        case ok.passed => exact costs_execute.mono (Nat.le_add_left ..)
        case ok.inactive | ok.active => exact Asks.costs_bind ⟨rfl, fun _ => trivial⟩ fun _ => ih
        all_goals exact .done _
      · exact .done _

theorem costs_afterFailedVote {failure : TransactionError} : (w.afterFailedVote p failure).Costs τ.weight
    (w.readRetry.attempts * τ.record + w.readRetry.attempts * τ.vote) := by
  refine Costs.bind costs_readState ?_
  rintro (e | state)
  · exact .done _
  · dsimp only
    split
    · exact .done _
    · split
      · exact .done _
      · refine Costs.bind_free costs_readVote ?_
        rintro (e | _ | _) <;> exact .done _

theorem costs_ensureVote : (w.ensureVote p).Costs τ.weight (w.readRetry.attempts * τ.vote +
    (w.signer.retry.attempts * τ.send + (w.readRetry.attempts * τ.record + w.readRetry.attempts * τ.vote))) := by
  refine Costs.bind costs_readVote ?_
  rintro (e | _ | _)
  · exact .done _
  · refine Costs.bind costs_submit ?_
    rintro (e | tx | _)
    · exact costs_afterFailedVote
    · exact Asks.costs ⟨rfl, fun _ => trivial⟩
    · exact .done _
  · exact .done _

/-- Before the vote, after one that failed, for each time that it is watched, and after an execution that failed, the record
of a proposal is read once; votes are read before the vote and after one that failed. -/
theorem costs_advance : (w.advance p).Costs τ.weight
    ((w.watchLimit + 3) * (w.readRetry.attempts * τ.record) + 2 * (w.readRetry.attempts * τ.vote) +
      2 * (w.signer.retry.attempts * τ.send)) := by
  have goesOn : (w.advance p).Costs τ.weight (w.readRetry.attempts * τ.record +
      (w.readRetry.attempts * τ.vote + (w.signer.retry.attempts * τ.send +
        (w.readRetry.attempts * τ.record + w.readRetry.attempts * τ.vote)) +
      (w.watchLimit * (w.readRetry.attempts * τ.record) +
        (w.signer.retry.attempts * τ.send + w.readRetry.attempts * τ.record)))) := by
    refine Costs.bind costs_readState ?_
    rintro (e | ⟨_ | _ | _ | _ | _, votes, block⟩)
    case ok.passed => exact costs_execute.mono (by omega)
    case ok.inactive | ok.active =>
      refine Costs.bind costs_ensureVote ?_
      rintro (e | _ | outcome)
      · exact .done _
      · exact costs_watch w.watchLimit
      · exact .done _
    all_goals exact .done _
  refine goesOn.mono ?_
  rw [Nat.add_mul]
  omega

/-! ## Messages -/

/-- What a message weighs. -/
def Tariff.message (τ : Tariff) (w : Writer) : Nat :=
  w.readRetry.attempts * τ.handler + ((w.watchLimit + 3) * (w.readRetry.attempts * τ.record) +
    2 * (w.readRetry.attempts * τ.vote) + 2 * (w.signer.retry.attempts * τ.send))

theorem costs_deliver : (w.deliver m).Costs τ.weight (τ.message w) := by
  unfold deliver
  split
  · exact .done _
  · refine Costs.bind (costs_read (costs_ask _)) ?_
    rintro (e | handler)
    · exact .done _
    · dsimp only
      split
      · exact .done _
      · exact costs_advance

theorem costs_write : (w.write m).Costs τ.weight (τ.message w) := by
  refine Asks.costs_bind ⟨rfl, fun _ => trivial⟩ fun _ => Costs.bind_free (Asks.costs_bind ⟨rfl, fun _ => trivial⟩ ?_) ?_
  · rintro (_ | _)
    · exact costs_deliver
    · exact .done _
  · exact fun result => Asks.costs ⟨rfl, fun _ => trivial⟩

/-! ## Requests of each kind -/

/-- Looks up a handler. -/
def looksUp : WriterRequest → Bool
  | .chain (.handler _) => true
  | _ => false

/-- Reads the record of a proposal. -/
def readsRecord : WriterRequest → Bool
  | .chain (.proposal ..) => true
  | _ => false

/-- Reads whether a vote is recorded. -/
def readsVote : WriterRequest → Bool
  | .chain (.hasVoted ..) => true
  | _ => false

theorem weight_handler (r : WriterRequest) : Tariff.weight { handler := 1 } r = (looksUp r).toNat := by
  rcases r with (_ | _ | _ | _ | _ | _ | _ | _ | _) | _ | _ | _ <;> rfl

theorem weight_record (r : WriterRequest) : Tariff.weight { record := 1 } r = (readsRecord r).toNat := by
  rcases r with (_ | _ | _ | _ | _ | _ | _ | _ | _) | _ | _ | _ <;> rfl

theorem weight_vote (r : WriterRequest) : Tariff.weight { vote := 1 } r = (readsVote r).toNat := by
  rcases r with (_ | _ | _ | _ | _ | _ | _ | _ | _) | _ | _ | _ <;> rfl

theorem weight_send (r : WriterRequest) : Tariff.weight { send := 1 } r = r.isSend.toNat := by
  rcases r with (_ | _ | _ | _ | _ | _ | _ | _ | _) | _ | _ | _ <;> rfl

theorem countP_le_message {kind : WriterRequest → Bool} {t : Trace} {q : Program WriterInterface (Result Outcome)}
    (h : ∀ r, τ.weight r = (kind r).toNat) (hr : (w.write m).Runs t q) :
    (t.countP fun x => kind x.request) ≤ τ.message w := by
  rw [← work_eq_countP h]
  exact costs_write t q hr

end Writer

end BridgeRelay
