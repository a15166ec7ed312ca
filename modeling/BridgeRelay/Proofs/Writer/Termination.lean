import BridgeRelay.Proofs.Signer.Receipts
import BridgeRelay.Proofs.Writer.Runs
import BridgeRelay.Proofs.Writer.Work

/-!
# Every message comes to an end

Time passes while a writer waits, and that is all it needs: reads and calls are attempted only so often, a proposal is
watched only so often, and each wait for a receipt is over at its deadline. So the work for a message ends whatever the
chain answers, even if it fails for ever.
-/

namespace BridgeRelay

open Program Destination

variable {α β : Type}

/-! ## The clock -/

/-- The world of a clock, which shows the time to those who look. Time may pass between requests and while they are
answered, a sleep takes its time or longer, and all other answers may be any. -/
def clock : World WriterInterface Time where
  drift now later := now ≤ later
  permits _ _ := True
  reply now x later :=
    match x with
    | ⟨.host .now, time⟩ => time = now ∧ later = now
    | ⟨.host (.sleep d), _⟩ => now + d.nanos ≤ later
    | _ => now ≤ later

theorem clock_answers {r : WriterRequest} (h : ∀ fault, r ≠ .host (.abort fault)) (now : Time) :
    ∃ a later, clock.reply now ⟨r, a⟩ later := by
  cases r with
  | chain q => cases q <;> exact ⟨.error (.timeout ""), now, Nat.le_refl now⟩
  | host r =>
      cases r with
      | now => exact ⟨now, now, rfl, rfl⟩
      | sleep d => exact ⟨(), now + d.nanos, Nat.le_refl _⟩
      | stopping => exact ⟨true, now, Nat.le_refl now⟩
      | abort fault => exact absurd rfl (h fault)
      | _ => exact ⟨(), now, Nat.le_refl now⟩
  | takeNonce => exact ⟨none, now, Nat.le_refl now⟩
  | _ => exact ⟨(), now, Nat.le_refl now⟩

/-- From any time on the program comes to its end. -/
def Timely (p : Program WriterInterface α) : Prop := ∀ now, p.Ends clock (fun _ _ => True) now

namespace Timely

variable {p : Program WriterInterface α} {f : α → Program WriterInterface β}

theorem done (a : α) : Timely (done a) := fun _ => .done trivial

theorem ask {r : WriterRequest} {next : WriterInterface.Answer r → Program WriterInterface α}
    (h : ∀ fault, r ≠ .host (.abort fault)) (rest : ∀ a, Timely (next a)) : Timely (ask r next) :=
  fun _ => .ask rfl (fun now _ => clock_answers h now) fun _ a later _ _ => rest a later

theorem bind (hp : Timely p) (hf : ∀ a, Timely (f a)) : Timely (p.bind f) :=
  fun now => .bind ((hp now).mono fun a later _ => hf a later)

theorem query (q : DestinationQuery) : Timely (query q) := ask nofun fun _ => done _

theorem takeNonce : Timely takeNonce := ask nofun fun _ => done _

theorem giveNonce (next : Option UInt64) : Timely (giveNonce next) := ask nofun fun _ => done _

theorem record (u : Metrics.Update) : Timely (Host.record u) := ask nofun fun _ => done _

theorem sleep (d : Duration) : Timely (Host.sleep d) := ask nofun fun _ => done _

theorem pause (d : Duration) : Timely (Host.pause d) := ask nofun fun _ => done _

theorem stopping : Timely Host.stopping := ask nofun fun _ => done _

theorem enter : Timely enter := ask nofun fun _ => done _

theorem leave : Timely leave := ask nofun fun _ => done _

end Timely

/-! ## Calls -/

namespace Signer

variable {s : Signer} {call : BridgeCall} {p : Pending}

theorem timely_legacyQuote {g : GasSettings} : Timely g.legacyQuote := by
  refine .bind (.query _) ?_
  rintro (e | price) <;> exact .done _

theorem timely_quote {g : GasSettings} {pricing : GasPricing} : Timely (g.quote pricing) := by
  cases pricing with
  | static => exact timely_legacyQuote
  | london =>
      refine .bind (.query _) ?_
      rintro (e | _ | baseFee)
      · exact .done _
      · exact timely_legacyQuote
      · refine .bind (.query _) ?_
        rintro (e | tip) <;> exact .done _

theorem timely_choose {bumps : Nat} {stuck next : Option UInt64} : Timely (s.choose bumps stuck next) := by
  refine .bind ?_ ?_
  · unfold chooseNonce
    split
    · exact .done _
    · exact .query _
  · rintro (e | nonce)
    · exact .done _
    · refine .bind timely_quote ?_
      rintro (e | price) <;> exact .done _

theorem timely_broadcast {bumps : Nat} {stuck : Option UInt64} : Timely (s.broadcast call bumps stuck) := by
  refine .bind .takeNonce fun next => .bind timely_choose ?_
  rintro (e | o)
  · exact .bind (.giveNonce _) fun _ => .done _
  · refine .bind (.query _) ?_
    rintro (e | tx) <;> exact .bind (.giveNonce _) fun _ => .done _

/-- Behind a round: it was the last one, or it began before the deadline and time has passed. -/
def Passed (deadline begun : Time) : Unit ⊕ Except ChainError Bool → Time → Prop
  | .inl _, now => begun < deadline ∧ begun < now
  | .inr _, _ => True

theorem ends_goOn {c : Confirmation} {tx : Hash} {deadline begun now : Time} (poll : 0 < c.pollInterval.nanos)
    (h : begun ≤ now) : (goOn c tx deadline).Ends clock (Passed deadline begun) now := by
  refine .ask rfl (fun now _ => ⟨now, now, rfl, rfl⟩) ?_
  rintro _ _ looked (before : now ≤ _) ⟨rfl, rfl⟩
  dsimp only [Program.bind]
  split
  · exact .done trivial
  · rename_i left
    have looked : begun ≤ looked := h.trans before
    refine .ask rfl (fun now _ => ⟨(), _, Nat.le_refl _⟩) ?_
    intro asleep _ awake (waited : _ ≤ asleep) (slept : asleep + c.pollInterval.nanos ≤ awake)
    have passed : begun < asleep + c.pollInterval.nanos :=
      Nat.lt_of_le_of_lt (looked.trans waited) (Nat.lt_add_of_pos_right poll)
    exact .done ⟨Nat.lt_of_le_of_lt looked (Nat.not_le.mp left), Nat.lt_of_lt_of_le passed slept⟩

theorem ends_lookUp {c : Confirmation} {tx : Hash} {deadline now : Time} (poll : 0 < c.pollInterval.nanos) :
    (lookUp c tx deadline).Ends clock (Passed deadline now) now := by
  have answered (now : Time) := clock_answers (r := .chain (.receipt tx)) nofun now
  refine .ask rfl (fun now _ => answered now) ?_
  intro asked found known (before : now ≤ asked) (after : asked ≤ known)
  rcases found with e | _ | success
  · exact ends_goOn poll (before.trans after)
  · exact ends_goOn poll (before.trans after)
  · exact .done trivial

/-- Each round but the last takes time, and the time that is left before the deadline bounds the rounds. -/
theorem timely_rounds {c : Confirmation} {tx : Hash} {deadline : Time} (poll : 0 < c.pollInterval.nanos) :
    Timely (iterate () fun _ => lookUp c tx deadline) := by
  intro now
  generalize left : deadline - now = n
  induction n using Nat.strong_induction_on generalizing now with
  | h n ih =>
    refine .iterate ((ends_lookUp poll).mono ?_)
    rintro (_ | x) later passed
    · obtain ⟨begun, behind⟩ : now < deadline ∧ now < later := passed
      exact ih (deadline - later) (left ▸ Nat.sub_lt_sub_left begun behind) later rfl
    · trivial

theorem timely_awaitReceipt {c : Confirmation} {tx : Hash} (poll : 0 < c.pollInterval.nanos) :
    Timely (awaitReceipt c tx) := by
  rw [awaitReceipt_eq]
  exact .ask nofun fun start => timely_rounds poll

theorem timely_attempt (poll : 0 < s.confirmation.pollInterval.nanos) : Timely (s.attempt call p) := by
  refine .bind timely_broadcast ?_
  rintro (e | ⟨tx, nonce⟩)
  · exact .done _
  · refine .bind (timely_awaitReceipt poll) ?_
    rintro (e | _ | _) <;> exact .done _

theorem attended_clock (poll : 0 < s.confirmation.pollInterval.nanos) : Attended clock s call fun _ => True where
  attempt _ now _ := timely_attempt poll now
  forget now _ := Timely.bind .takeNonce (fun _ => .giveNonce none) now
  postpone _ d now _ := Timely.bind (.record _) (fun _ => .sleep d) now

end Signer

/-! ## Messages -/

namespace Writer

variable {w : Writer} {m : Message} {p : Proposal}

/-- The program is at its end, or a policy of the writer has no delay to sleep after an attempt, which ends the worker. -/
inductive Halted (w : Writer) : Program WriterInterface α → Prop where
  | done (a : α) : Halted w (done a)
  | abort {r : RetryPolicy} {n : Nat} {fault : Duration.Fault} (own : r ∈ [w.readRetry, w.signer.retry])
      (allowed : n < r.maxAttempts) (undelayed : r.backoff n = .error fault)
      (rest : Empty → Program WriterInterface α) : Halted w (ask (.host (.abort fault)) rest)

/-- From any time on the program comes to its end, or to a delay that is none. -/
def Finishes (w : Writer) (p : Program WriterInterface α) : Prop :=
  ∀ now, p.Attains clock (fun q _ => w.Halted q) now

namespace Finishes

variable {q : Program WriterInterface α} {f : α → Program WriterInterface β}

theorem done (a : α) : w.Finishes (done a) := fun _ => .reached (.done a)

theorem bind (hq : w.Finishes q) (hf : ∀ a, w.Finishes (f a)) : w.Finishes (q.bind f) := by
  intro now
  refine (hq now).bind ?_
  rintro _ later (a | ⟨own, allowed, undelayed, rest⟩)
  · exact hf a later
  · exact .reached (.abort own allowed undelayed _)

theorem of_timely (h : Timely q) : w.Finishes q := by
  refine fun now => (h now).attains.mono ?_
  rintro _ _ ⟨a, rfl, -⟩
  exact .done a

theorem of_over {r : RetryPolicy} (own : r ∈ [w.readRetry, w.signer.retry])
    (h : ∀ now, q.Attains clock (fun q _ => r.Over q ∧ True) now) : w.Finishes q := by
  refine fun now => (h now).mono ?_
  rintro _ _ ⟨a | ⟨left, undelayed, rest⟩, -⟩
  · exact .done a
  · exact .abort own (Nat.lt_of_succ_lt left) undelayed _

end Finishes

theorem answered_clock {op : Program WriterInterface (Except ChainError α)} (h : Timely op) :
    RetryPolicy.Answered clock op fun _ => True where
  call now _ := h now
  sleep d now _ := Timely.sleep d now

/-- A reading is made again only so often. -/
theorem finishes_read {op : Program WriterInterface (Except ChainError α)} (h : Timely op) :
    w.Finishes (w.read op) := by
  refine .bind (.of_over List.mem_cons_self fun _ => (answered_clock h).attains_readFrom (by omega) trivial) ?_
  rintro (e | a) <;> exact .done _

theorem finishes_readState : w.Finishes (w.readState p) := finishes_read (.query _)

theorem finishes_readVote : w.Finishes (w.readVote p) := finishes_read (.query _)

theorem finishes_settle {failure : Option TransactionError} : w.Finishes (w.settle p failure) := by
  refine .bind finishes_readState ?_
  rintro (e | state)
  · exact .done _
  · dsimp only
    split
    · exact .done _
    · cases failure <;> exact .done _

theorem finishes_afterFailedVote {failure : TransactionError} : w.Finishes (w.afterFailedVote p failure) := by
  refine .bind finishes_readState ?_
  rintro (e | state)
  · exact .done _
  · dsimp only
    split
    · exact .done _
    · split
      · exact .done _
      · refine .bind finishes_readVote ?_
        rintro (e | _ | _) <;> exact .done _

section Polled

variable (poll : 0 < w.signer.confirmation.pollInterval.nanos)

include poll

/-- A call is attempted again only so often. -/
theorem finishes_submit {call : BridgeCall} : w.Finishes (w.signer.submit call) :=
  .of_over (List.mem_cons_of_mem _ List.mem_cons_self) fun _ =>
    (Signer.attended_clock poll).attains_submitFrom (r := { policy := w.signer.retry }) trivial

theorem finishes_execute : w.Finishes (w.execute p) := by
  refine .bind (finishes_submit poll) ?_
  rintro (e | tx | _)
  · exact finishes_settle
  · exact .of_timely (.bind (.record _) fun _ => .done _)
  · exact finishes_settle

theorem finishes_watch (left : Nat) : w.Finishes (w.watch p left) := by
  induction left with
  | zero => exact .done _
  | succ left ih =>
      refine .bind (.of_timely .stopping) ?_
      rintro (_ | _)
      · refine .bind finishes_readState ?_
        rintro (e | ⟨_ | _ | _ | _ | _, votes, block⟩)
        case ok.passed => exact finishes_execute poll
        case ok.inactive | ok.active => exact .bind (.of_timely (.pause _)) fun _ => ih
        all_goals exact .done _
      · exact .done _

theorem finishes_ensureVote : w.Finishes (w.ensureVote p) := by
  refine .bind finishes_readVote ?_
  rintro (e | _ | _)
  · exact .done _
  · refine .bind (finishes_submit poll) ?_
    rintro (e | tx | _)
    · exact finishes_afterFailedVote
    · exact .of_timely (.bind (.record _) fun _ => .done _)
    · exact .done _
  · exact .done _

theorem finishes_advance : w.Finishes (w.advance p) := by
  refine .bind finishes_readState ?_
  rintro (e | ⟨_ | _ | _ | _ | _, votes, block⟩)
  case ok.passed => exact finishes_execute poll
  case ok.inactive | ok.active =>
    refine .bind (finishes_ensureVote poll) ?_
    rintro (e | _ | outcome)
    · exact .done _
    · exact finishes_watch poll _
    · exact .done _
  all_goals exact .done _

theorem finishes_deliver : w.Finishes (w.deliver m) := by
  unfold deliver
  split
  · exact .done _
  · refine .bind (finishes_read (.query _)) ?_
    rintro (e | handler)
    · exact .done _
    · dsimp only
      split
      · exact .done _
      · exact finishes_advance poll

theorem finishes_write : w.Finishes (w.write m) := by
  refine .bind (.of_timely .enter) fun _ => .bind (.bind (.of_timely .stopping) ?_) ?_
  · rintro (_ | _)
    · exact finishes_deliver poll
    · exact .done _
  · exact fun result => .of_timely (.bind .leave fun _ => .done _)

end Polled

/-! ## Main statement -/

/-- The writing of a message comes to its end whatever is answered and however often calls fail, or to a delay that its
policy does not have. Policies that have delays have them all, and with a multiplier that is not below zero only those whose
own delay cannot be represented, such as a longest one of about `2 ^ 64` seconds, have none. Meanwhile the handler is looked
up, the proposal and the vote are read, and calls are broadcast, only so often. -/
theorem message_work_bounded (w : Writer) (poll : 0 < w.signer.confirmation.pollInterval.nanos) (m : Message) :
    (∀ now, (w.write m).Attains clock (fun q _ => w.Halted q) now) ∧
    (w.readRetry.HasDelays → w.signer.retry.HasDelays → ∀ now, (w.write m).Ends clock (fun _ _ => True) now) ∧
    ∀ t q, (w.write m).Runs t q →
      (t.countP fun x => looksUp x.request) ≤ w.readRetry.attempts ∧
      (t.countP fun x => readsRecord x.request) ≤ (w.watchLimit + 3) * w.readRetry.attempts ∧
      (t.countP fun x => readsVote x.request) ≤ 2 * w.readRetry.attempts ∧
      (t.countP fun x => x.request.isSend) ≤ 2 * w.signer.retry.attempts := by
  refine ⟨finishes_write poll, fun reads calls now => (finishes_write poll now).ends ?_, fun t q hr => ?_⟩
  · rintro _ later (a | ⟨own, allowed, undelayed, rest⟩)
    · exact .done trivial
    · have delays : RetryPolicy.HasDelays _ :=
        List.forall_mem_cons.mpr ⟨reads, List.forall_mem_singleton.mpr calls⟩ _ own
      obtain ⟨d, delay⟩ := RetryPolicy.backoff_ok delays allowed
      cases undelayed.symm.trans delay
  · refine ⟨?_, ?_, ?_, ?_⟩
    · simpa [Tariff.message] using countP_le_message weight_handler hr
    · simpa [Tariff.message] using countP_le_message weight_record hr
    · simpa [Tariff.message] using countP_le_message weight_vote hr
    · simpa [Tariff.message] using countP_le_message weight_send hr

/-! ## A sample -/

/-- With the usual settings a message comes to its end after at most five look-ups of its handler, sixty-five readings of
its proposal and ten of its vote, and ten broadcasts. -/
theorem sample_work_bounded : 0 < sample.signer.confirmation.pollInterval.nanos ∧
    sample.readRetry.HasDelays ∧ sample.signer.retry.HasDelays ∧
    (∀ now, (sample.write (Devnet.sampleMessage 1 2 7)).Ends clock (fun _ _ => True) now) ∧
    ∀ t q, (sample.write (Devnet.sampleMessage 1 2 7)).Runs t q →
      (t.countP fun x => looksUp x.request) ≤ 5 ∧ (t.countP fun x => readsRecord x.request) ≤ 65 ∧
      (t.countP fun x => readsVote x.request) ≤ 10 ∧ (t.countP fun x => x.request.isSend) ≤ 10 := by
  have poll : 0 < sample.signer.confirmation.pollInterval.nanos := by decide
  have delays := RetryPolicy.hasDelays_default
  obtain ⟨-, ends, few⟩ := message_work_bounded sample poll (Devnet.sampleMessage 1 2 7)
  exact ⟨poll, delays, delays, ends delays delays, few⟩

end Writer

end BridgeRelay
