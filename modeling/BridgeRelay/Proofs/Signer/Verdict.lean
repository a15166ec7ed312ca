import BridgeRelay.Devnet.Sample
import BridgeRelay.Proofs.Devnet.Ledger
import BridgeRelay.Proofs.Program.Counting
import BridgeRelay.Proofs.Retry.Reads
import BridgeRelay.Proofs.Signer.Evidence

/-!
# The course of a submission

A submission is a row of attempts with waits between them. It ends with the first attempt that decides it: one that
succeeds, one that fails for good, or the last one that the policy allows. How it ends is a function of that attempt and
its number. The trace of each attempt shows the reason for its result.
-/

namespace BridgeRelay

open Program Destination

/-- Asks the host or for the account, but not the chain. -/
def WriterRequest.IsApart : WriterRequest → Prop
  | .chain _ => False
  | _ => True

namespace Signer

/-! ## What decides -/

/-- No attempt follows attempt number `i`, counted from one, if it ends so. -/
def Decides (policy : RetryPolicy) (i : Nat) : Except ChainError Hash → Prop
  | .ok _ => True
  | .error e => IsFinal e ∨ policy.maxAttempts ≤ i

/-- What a submission gives back if attempt number `i` decides it. -/
def verdict (kind : CallKind) (i : Nat) : Except ChainError Hash → Except TransactionError Submission
  | .ok tx => .ok (.confirmed tx)
  | .error e =>
      match ErrorClass.ofError e with
      | .alreadyProcessed => .ok .alreadyProcessed
      | .permanent => .error (.rejected kind e.message)
      | _ => .error (.exhausted kind i e.message)

/-- A submission runs so from attempt number `i` on, which has `p` from the one before, and gives back `a`. -/
inductive Course (s : Signer) (call : BridgeCall) :
    Nat → Pending → List (Exchange WriterInterface) → Except TransactionError Submission → Prop where
  /-- a confirmed transaction is one that the deciding attempt itself brought in -/
  | ends {i : Nat} {p p' : Pending} {x : Except ChainError Hash} {t : List (Exchange WriterInterface)}
      (attempted : (s.attempt call p).Runs t (done (x, p'))) (decides : Decides s.retry i x)
      (mined : ∀ tx, x = .ok tx → Mined call tx t) : Course s call i p t (verdict call.kind i x)
  | again {i : Nat} {p p' q : Pending} {e : ChainError} {t waits u : List (Exchange WriterInterface)}
      {a : Except TransactionError Submission} (attempted : (s.attempt call p).Runs t (done (.error e, p')))
      (undecided : ¬ Decides s.retry i (.error e)) (apart : ∀ y ∈ waits, y.request.IsApart)
      (rest : Course s call (i + 1) q u a) : Course s call i p (t ++ (waits ++ u)) a

variable {s : Signer} {call : BridgeCall} {r : RetryRecord} {p : Pending} {e : ChainError} {i : Nat}
  {t : List (Exchange WriterInterface)} {a : Except TransactionError Submission}

/-! ## The record -/

theorem next_of_decides (h : Decides r.policy (r.attempt + 1) (.error e)) :
    ∃ action, (r.fail e).next = .ok action ∧ action.isRetry = false := by
  rcases h with (hc | hc) | last
  · exact ⟨.giveUp, by simp [RetryRecord.next, RetryRecord.fail, hc], rfl⟩
  · exact ⟨.alreadyProcessed, by simp [RetryRecord.next, RetryRecord.fail, hc], rfl⟩
  · have last : r.policy.allows (r.attempt + 1) = false := decide_eq_false (Nat.not_lt.mpr last)
    cases hc : ErrorClass.ofError e with
    | alreadyProcessed => exact ⟨.alreadyProcessed, by simp [RetryRecord.next, RetryRecord.fail, hc], rfl⟩
    | _ => exact ⟨.giveUp, by simp [RetryRecord.next, RetryRecord.fail, hc, last], rfl⟩

/-- An attempt that does not decide is followed by another, unless the delay before it is none. -/
theorem next_of_not_decides (h : ¬ Decides r.policy (r.attempt + 1) (.error e)) :
    ∃ (delay : Except Duration.Fault Duration) (action : Duration → RetryAction),
      (r.fail e).next = delay.map action ∧ (∀ d, (action d).isRetry) ∧
        (delay = .ok (.ofSeconds 1) ∨
          ∃ attempt, attempt + 1 < r.policy.maxAttempts ∧ delay = r.policy.backoff attempt) := by
  obtain ⟨final, left⟩ := not_or.mp h
  have left : r.attempt + 1 < r.policy.maxAttempts := Nat.not_le.mp left
  have more : r.policy.allows (r.attempt + 1) = true := decide_eq_true left
  cases hc : ErrorClass.ofError e with
  | permanent => exact absurd (.inl hc) final
  | alreadyProcessed => exact absurd (.inr hc) final
  | underpriced =>
      exact ⟨_, .retryWithBump, by simp [RetryRecord.next, RetryRecord.fail, hc, more, Except.map], fun _ => rfl,
        .inl rfl⟩
  | nonceConflict =>
      exact ⟨r.policy.backoff 0, .refreshNonce, by simp [RetryRecord.next, RetryRecord.fail, hc, more], fun _ => rfl,
        .inr ⟨0, by omega, rfl⟩⟩
  | transient | unknown =>
      exact ⟨r.policy.backoff r.attempt, .retryAfter, by simp [RetryRecord.next, RetryRecord.fail, hc, more],
        fun _ => rfl, .inr ⟨r.attempt, by omega, rfl⟩⟩

/-- Only a delay that is none leaves no action. -/
theorem undelayed_of_next {fault : Duration.Fault} (hn : (r.fail e).next = .error fault) :
    ∃ attempt, attempt + 1 < r.policy.maxAttempts ∧ r.policy.backoff attempt = .error fault := by
  have undecided : ¬ Decides r.policy (r.attempt + 1) (.error e) := fun decides => by
    obtain ⟨_, hn', -⟩ := next_of_decides decides
    cases hn.symm.trans hn'
  obtain ⟨delay, _, hn', -, rfl | ⟨attempt, left, rfl⟩⟩ := next_of_not_decides undecided
  · cases hn.symm.trans hn'
  · refine ⟨attempt, left, ?_⟩
    cases undelayed : r.policy.backoff attempt with
    | ok d =>
        rw [undelayed] at hn'
        cases hn.symm.trans hn'
    | error fault =>
        rw [undelayed] at hn'
        cases hn.symm.trans hn'
        rfl

theorem decides_iff_of_next {action : RetryAction} (hn : (r.fail e).next = .ok action) :
    Decides r.policy (r.attempt + 1) (.error e) ↔ action.isRetry = false := by
  by_cases h : Decides r.policy (r.attempt + 1) (.error e)
  · obtain ⟨_, hn', ends⟩ := next_of_decides h
    cases hn.symm.trans hn'
    exact iff_of_true h ends
  · obtain ⟨delay, _, hn', retries, -⟩ := next_of_not_decides h
    cases delay with
    | error fault => cases hn.symm.trans hn'
    | ok d =>
        cases hn.symm.trans hn'
        exact iff_of_false h (by simp [retries d])

theorem verdict_of_alreadyProcessed (hn : (r.fail e).next = .ok .alreadyProcessed) :
    verdict call.kind (r.attempt + 1) (.error e) = .ok .alreadyProcessed := by
  simp [verdict, alreadyProcessed_of_next hn]

theorem verdict_of_giveUp (hn : (r.fail e).next = .ok .giveUp) :
    verdict call.kind (r.attempt + 1) (.error e) = .error (surrender call (r.fail e) (.ofError e)) := by
  cases hc : ErrorClass.ofError e with
  | alreadyProcessed => simp [RetryRecord.next, RetryRecord.fail, hc] at hn
  | _ => simp [verdict, surrender, RetryRecord.fail, RetryRecord.lastText, hc]

/-! ## Complete runs -/

theorem apart_postpone {c : ErrorClass} {d : Duration} : (s.postpone c d).Asks WriterRequest.IsApart :=
  ⟨trivial, fun _ => ⟨trivial, fun _ => trivial⟩⟩

theorem apart_forgetNonce : forgetNonce.Asks WriterRequest.IsApart := ⟨trivial, fun _ => ⟨trivial, fun _ => trivial⟩⟩

theorem course_submitFrom {t : List (Exchange WriterInterface)} {p : Pending} {r : RetryRecord}
    (hp : r.policy = s.retry) (hr : (s.submitFrom call r p).Runs t (done a)) : Course s call (r.attempt + 1) p t a := by
  rw [submitFrom] at hr
  obtain ⟨⟨x, p'⟩, t, u, rfl, attempted, hu⟩ := hr.of_bind_done
  have mined (tx : Hash) (hx : x = .ok tx) : Mined call tx t := by
    subst hx
    exact mined_of_attempt attempted
  have ends (decides : Decides r.policy (r.attempt + 1) x)
      (hu : (done (verdict call.kind (r.attempt + 1) x)).Runs u (done a)) :
      Course s call (r.attempt + 1) p (t ++ u) a := by
    obtain ⟨rfl, ha⟩ := hu.of_done
    cases ha
    rw [List.append_nil]
    exact .ends attempted (hp ▸ decides) mined
  rcases x with e | tx
  · have again {action : RetryAction} {waits v : List (Exchange WriterInterface)} {q : Pending}
        (hn : (r.fail e).next = .ok action) (ha : action.isRetry = true) (apart : ∀ y ∈ waits, y.request.IsApart)
        (hv : (s.submitFrom call (r.fail e) q).Runs v (done a)) :
        Course s call (r.attempt + 1) p (t ++ (waits ++ v)) a :=
      .again attempted (hp ▸ fun h => by simp [(decides_iff_of_next hn).mp h] at ha) apart
        (course_submitFrom (r := r.fail e) hp hv)
    dsimp only at hu
    split at hu
    case h_1 =>
      obtain ⟨absurd, -⟩ := hu.of_bind_done
      exact nomatch absurd
    case h_2 hn => exact ends ((decides_iff_of_next hn).mpr rfl) (verdict_of_alreadyProcessed hn ▸ hu)
    case h_3 hn => exact ends ((decides_iff_of_next hn).mpr rfl) (verdict_of_giveUp hn ▸ hu)
    case h_4 hn =>
      obtain ⟨_, v, v', rfl, waits, hv⟩ := hu.of_bind_done
      exact again hn rfl (apart_postpone.runs waits) hv
    case h_5 hn =>
      obtain ⟨_, v, u, rfl, forgets, hu⟩ := hu.of_bind_done
      obtain ⟨_, w, v', rfl, waits, hv⟩ := hu.of_bind_done
      rw [← List.append_assoc v]
      exact again hn rfl (List.forall_mem_append.mpr ⟨apart_forgetNonce.runs forgets, apart_postpone.runs waits⟩) hv
    case h_6 hn =>
      obtain ⟨_, v, v', rfl, waits, hv⟩ := hu.of_bind_done
      exact again hn rfl (apart_postpone.runs waits) hv
  · exact ends trivial hu
termination_by r.policy.maxAttempts - r.attempt
decreasing_by exact RetryRecord.left_fail_lt (by assumption) (by assumption)

theorem exhausted_of_verdict {kind kind' : CallKind} {x : Except ChainError Hash} {n : Nat} {text : String}
    (h : verdict kind i x = .error (.exhausted kind' n text)) : n = i ∧ ∃ e, x = .error e ∧ ¬ IsFinal e := by
  rcases x with e | tx
  · cases hc : ErrorClass.ofError e <;> simp only [verdict, hc] at h <;> cases h
    all_goals exact ⟨rfl, e, rfl, by simp [IsFinal, hc]⟩
  · cases h

theorem Course.attempts_of_exhausted {kind : CallKind} {n : Nat} {text : String} (h : Course s call i p t a)
    (ha : a = .error (.exhausted kind n text)) (hi : i = 1 ∨ 1 < i ∧ i ≤ s.retry.maxAttempts) :
    n = max 1 s.retry.maxAttempts := by
  -- a later attempt is one that the policy allows, the first is made even if it allows none
  induction h with
  | ends _ decides _ =>
      obtain ⟨rfl, e, rfl, passing⟩ := exhausted_of_verdict ha
      have last := decides.resolve_left passing
      omega
  | again _ undecided _ _ ih =>
      have left := Nat.not_le.mp (not_or.mp undecided).2
      exact ih ha (.inr (by omega))

/-! ## Reasons -/

/-- What the trace of an attempt shows of its result. -/
def Explains (s : Signer) (call : BridgeCall) (p : Pending) (t : List (Exchange WriterInterface)) :
    Except ChainError Hash → Pending → Prop
  | .ok tx, _ => Mined call tx t
  | .error e, p' => Failure s call p t e p'

/-- Attempts from number `i` on that failed, each for a reason that its trace shows, and did not decide: attempt number
`j` follows them, and has `q` from the last one. -/
inductive Failures (s : Signer) (call : BridgeCall) :
    Nat → Pending → List (Exchange WriterInterface) → Nat → Pending → Prop where
  | none {i : Nat} {p : Pending} : Failures s call i p [] i p
  | cons {i j : Nat} {p p' q q' : Pending} {e : ChainError} {t waits u : List (Exchange WriterInterface)}
      (failed : Failure s call p t e p') (undecided : ¬ Decides s.retry i (.error e))
      (apart : ∀ y ∈ waits, y.request.IsApart) (rest : Failures s call (i + 1) q u j q') :
      Failures s call i p (t ++ (waits ++ u)) j q'

theorem explains_of_attempt {x : Except ChainError Hash} {p' : Pending}
    (hr : (s.attempt call p).Runs t (done (x, p'))) : Explains s call p t x p' := by
  cases x with
  | error e => exact failure_of_attempt hr
  | ok tx => exact mined_of_attempt hr

/-- Each attempt of a course has its reason in the trace: those that fail and are followed by others, and the last one. -/
theorem Course.explained (h : Course s call i p t a) : ∃ u v j q x q', t = u ++ v ∧ Failures s call i p u j q ∧
    Explains s call q v x q' ∧ Decides s.retry j x ∧ a = verdict call.kind j x := by
  induction h with
  | @ends i p p' x t attempted decides _ =>
      exact ⟨[], t, i, p, x, p', rfl, .none, explains_of_attempt attempted, decides, rfl⟩
  | @again _ _ _ _ _ t waits _ _ attempted undecided apart _ ih =>
      obtain ⟨u, v, j, q, x, q', rfl, failures, explains, decides, rfl⟩ := ih
      exact ⟨t ++ (waits ++ u), v, j, q, x, q', by simp, .cons (failure_of_attempt attempted) undecided apart failures,
        explains, decides, rfl⟩

/-! ## Broadcasts -/

theorem unsent_of_waiting {r : WriterRequest} (h : r.IsWaiting) : r.isSend = false := by
  rcases r with (_ | _ | _ | _ | _ | _ | _ | _ | _) | _ | _ | _ | _ <;> first | exact h.elim | rfl

theorem unsent_of_apart {r : WriterRequest} (h : r.IsApart) : r.isSend = false := by
  cases r with
  | chain q => exact h.elim
  | _ => rfl

abbrev sending (limit : Nat) : World WriterInterface Nat := .counting WriterRequest.isSend limit

variable {limit n : Nat}

theorem broadcast_sends_once {bumps : Nat} {stuck : Option UInt64} (h : n < limit) :
    (s.broadcast call bumps stuck).Keeps (sending limit) (fun _ n' => n' ≤ n + 1) n := by
  refine keeps_do.mpr (keeps_ask_watch.mpr ⟨nofun, fun next => keeps_do.mpr ?_⟩)
  refine (asks_choose.mono fun _ => unsent_of_choosing).keeps_counting.mono ?_
  rintro (e | o) n (rfl : n = _)
  · exact keeps_do.mpr (keeps_ask_watch.mpr ⟨nofun, fun _ => Nat.le_succ _⟩)
  · refine keeps_do.mpr (keeps_ask_watch.mpr ⟨fun _ => h, fun answer => ?_⟩)
    cases answer <;> exact keeps_do.mpr (keeps_ask_watch.mpr ⟨nofun, fun _ => Nat.le_refl _⟩)

theorem attempt_sends_once (h : n < limit) :
    (s.attempt call p).Keeps (sending limit) (fun _ n' => n' ≤ n + 1) n := by
  refine keeps_do.mpr ((broadcast_sends_once h).mono ?_)
  rintro (e | ⟨tx, nonce⟩) n' hn
  · exact hn
  · refine keeps_do.mpr ((asks_awaitReceipt.mono fun _ => unsent_of_waiting).keeps_counting.mono ?_)
    rintro (e | _ | _) _ rfl <;> exact hn

theorem submitFrom_sends {r : RetryRecord} {p : Pending} {n : Nat} (hn : n ≤ r.attempt) (h : r.attempt < limit)
    (hl : r.policy.maxAttempts ≤ limit) : (s.submitFrom call r p).Keeps (sending limit) (fun _ _ => True) n := by
  -- the broadcasts so far are at most the attempts so far, so another is granted with each attempt
  have apart {α : Type} {q : Program WriterInterface α} {n : Nat} (hq : q.Asks WriterRequest.IsApart) :
      q.Keeps (sending limit) (fun _ n' => n' = n) n := (hq.mono fun _ => unsent_of_apart).keeps_counting
  rw [submitFrom]
  refine keeps_do.mpr ((attempt_sends_once (Nat.lt_of_le_of_lt hn h)).mono ?_)
  rintro ⟨e | tx, p'⟩ n' hn'
  · have again {action : RetryAction} {q : Pending} (hnext : (r.fail e).next = .ok action)
        (ha : action.isRetry = true) : (s.submitFrom call (r.fail e) q).Keeps (sending limit) (fun _ _ => True) n' := by
      have left := RetryRecord.lt_maxAttempts_of_next hnext ha
      exact submitFrom_sends (r := r.fail e) (Nat.le_trans hn' (Nat.succ_le_succ hn)) (Nat.lt_of_lt_of_le left hl) hl
    dsimp only
    split
    case h_1 => exact keeps_bind.mpr (keeps_ask_watch.mpr ⟨nofun, nofun⟩)
    case h_2 => trivial
    case h_3 => trivial
    case h_4 hnext =>
      refine keeps_do.mpr ((apart apart_postpone).mono ?_)
      rintro _ _ rfl
      exact again hnext rfl
    case h_5 hnext =>
      refine keeps_do.mpr ((apart apart_forgetNonce).mono ?_)
      rintro _ _ rfl
      refine keeps_do.mpr ((apart apart_postpone).mono ?_)
      rintro _ _ rfl
      exact again hnext rfl
    case h_6 hnext =>
      refine keeps_do.mpr ((apart apart_postpone).mono ?_)
      rintro _ _ rfl
      exact again hnext rfl
  · trivial
termination_by r.policy.maxAttempts - r.attempt
decreasing_by exact RetryRecord.left_fail_lt (by assumption) (by assumption)

/-! ## Endings -/

/-- A world in which every attempt of the call comes to a result, and the waits to their ends. -/
structure Attended {S : Type} (W : World WriterInterface S) (s : Signer) (call : BridgeCall) (inv : S → Prop) :
    Prop where
  attempt (p : Pending) (st : S) : inv st → (s.attempt call p).Ends W (fun _ st => inv st) st
  forget (st : S) : inv st → forgetNonce.Ends W (fun _ st => inv st) st
  postpone (c : ErrorClass) (d : Duration) (st : S) : inv st → (s.postpone c d).Ends W (fun _ st => inv st) st

/-- A submission comes to its end, or to a delay that is none. -/
theorem Attended.attains_submitFrom {S : Type} {W : World WriterInterface S} {inv : S → Prop} {r : RetryRecord}
    {p : Pending} {st : S} (h : Attended W s call inv) (hi : inv st) :
    (s.submitFrom call r p).Attains W (fun q st => r.policy.Over q ∧ inv st) st := by
  rw [submitFrom]
  refine Ends.attains_bind ((h.attempt p st hi).mono ?_)
  rintro ⟨e | tx, p'⟩ st hi
  · have again {action : RetryAction} {q : Pending} {st : S} (hn : (r.fail e).next = .ok action)
        (ha : action.isRetry = true) (hi : inv st) :
        (s.submitFrom call (r.fail e) q).Attains W (fun q st => r.policy.Over q ∧ inv st) st :=
      h.attains_submitFrom (r := r.fail e) hi
    dsimp only
    split
    case h_1 fault hn =>
      obtain ⟨attempt, left, undelayed⟩ := undelayed_of_next hn
      exact .reached ⟨.abort left undelayed _, hi⟩
    case h_2 => exact .reached ⟨.done _, hi⟩
    case h_3 => exact .reached ⟨.done _, hi⟩
    case h_4 hn => exact Ends.attains_bind ((h.postpone _ _ st hi).mono fun _ _ hi => again hn rfl hi)
    case h_5 hn =>
      refine Ends.attains_bind ((h.forget st hi).mono fun _ st hi => ?_)
      exact Ends.attains_bind ((h.postpone _ _ st hi).mono fun _ _ hi => again hn rfl hi)
    case h_6 hn => exact Ends.attains_bind ((h.postpone _ _ st hi).mono fun _ _ hi => again hn rfl hi)
  · exact .reached ⟨.done _, hi⟩
termination_by r.policy.maxAttempts - r.attempt
decreasing_by exact RetryRecord.left_fail_lt (by assumption) (by assumption)

/-- A policy with delays lets the submission come to its end. -/
theorem Attended.ends_submitFrom {S : Type} {W : World WriterInterface S} {inv : S → Prop} {r : RetryRecord}
    {p : Pending} {st : S} (h : Attended W s call inv) (hp : r.policy.HasDelays) (hi : inv st) :
    (s.submitFrom call r p).Ends W (fun _ st => inv st) st := by
  refine (h.attains_submitFrom hi).ends ?_
  rintro _ st ⟨ended, hi⟩
  obtain ⟨a, rfl⟩ := ended.exists_done hp
  exact .done hi

/-! ## Main statement -/

/-- A submission ends with the first attempt that decides it, and as the verdict on that attempt says. It broadcasts at
most as often as its policy allows attempts, but once at least, and a call that is given up as exhausted tells of that
many. If the policy has delays and every attempt comes to a result, so does the submission. With a multiplier that
is not below zero only a policy whose own delay cannot be represented, such as a longest one of about `2 ^ 64` seconds, has
none. -/
theorem submission_follows_policy (s : Signer) (call : BridgeCall) :
    (∀ t a, (s.submit call).Runs t (done a) → Course s call 1 {} t a) ∧
    (∀ t kind n text, (s.submit call).Runs t (done (.error (.exhausted kind n text))) → n = max 1 s.retry.maxAttempts) ∧
    (∀ t q, (s.submit call).Runs t q → (t.countP fun x => x.request.isSend) ≤ max 1 s.retry.maxAttempts) ∧
    (s.retry.HasDelays → ∀ (S : Type) (W : World WriterInterface S) (inv : S → Prop) (st : S),
      Attended W s call inv → inv st → (s.submit call).Ends W (fun _ st => inv st) st) := by
  have course {t : List (Exchange WriterInterface)} {a : Except TransactionError Submission}
      (hr : (s.submit call).Runs t (done a)) : Course s call 1 {} t a := course_submitFrom rfl hr
  refine ⟨fun t a => course, ?_, ?_, ?_⟩
  · intro t kind n text hr
    exact (course hr).attempts_of_exhausted rfl (.inl rfl)
  · intro t q hr
    have sends : (s.submit call).Keeps (sending (max 1 s.retry.maxAttempts)) (fun _ _ => True) 0 :=
      submitFrom_sends (Nat.le_refl 0) (Nat.le_max_left ..) (Nat.le_max_right ..)
    exact sends.countP_le hr
  · intro hp S W inv st attended hi
    exact attended.ends_submitFrom hp hi

/-! ## A sample -/

theorem runs_of_decides {x : Except ChainError Hash} {p' : Pending}
    (attempted : (s.attempt call p).Runs t (done (x, p'))) (decides : Decides r.policy (r.attempt + 1) x) :
    (s.submitFrom call r p).Runs t (done (verdict call.kind (r.attempt + 1) x)) := by
  rw [submitFrom]
  refine (List.append_nil t) ▸ (attempted.bind _).trans ?_
  rcases x with e | tx
  · dsimp only [done_bind]
    split
    case h_1 hn =>
      obtain ⟨_, hn', -⟩ := next_of_decides decides
      cases hn.symm.trans hn'
    case h_2 hn =>
      rw [verdict_of_alreadyProcessed hn]
      exact .stay
    case h_3 hn =>
      rw [verdict_of_giveUp hn]
      exact .stay
    all_goals
      rename_i hn
      exact absurd ((decides_iff_of_next hn).mp decides) nofun
  · exact .stay

/-- A signer that attempts a call twice. -/
def sampleTwice : Signer := { sample with retry := { maxAttempts := 2 } }

theorem hasDelays_sampleTwice : sampleTwice.retry.HasDelays where
  multiplier := .inl (Binary64.unsigned_ofNat 2)
  maximum := Duration.exists_ofBinary64_toSeconds (by decide)

/-- A node that does not answer exhausts the attempts. -/
theorem runs_unanswered (call : BridgeCall) (text : String) : ∃ t, (sampleTwice.submit call).Runs t
    (done (.error (.exhausted call.kind 2 (ChainError.timeout text).message))) := by
  let r : RetryRecord := { policy := sampleTwice.retry }
  obtain ⟨d, hd⟩ : ∃ d, sampleTwice.retry.backoff 0 = .ok d := RetryPolicy.backoff_ok hasDelays_sampleTwice (by decide)
  obtain ⟨t, _, -, -, refused⟩ := sampleTwice.runs_refused call 0 none none 0 (.timeout text)
  have attempted := runs_attempt_refused (p := {}) refused
  obtain ⟨u, first, -⟩ := runs_retryAfter (r := r) (next_timeout text (by decide) hd) attempted
  have second := runs_of_decides (r := r.fail (.timeout text)) attempted (.inr (Nat.le_refl 2))
  exact ⟨_, first.trans second⟩

theorem attended_ledger {relayer : Address} : Attended (Devnet.Ledger.world relayer) s call fun _ => True where
  attempt _ _ _ := (ends_attempt Devnet.Ledger.serves).mono fun _ _ _ => trivial
  forget _ _ := .bind (Devnet.Ledger.serves.ends_ask trivial fun _ _ _ _ =>
    .done (Devnet.Ledger.serves.ends_ask trivial fun _ _ _ _ => .done trivial))
  postpone _ _ _ _ := .bind (Devnet.Ledger.serves.ends_ask trivial fun _ _ _ _ =>
    .done (Devnet.Ledger.serves.ends_ask trivial fun _ _ _ _ => .done trivial))

theorem sample_follows_policy :
    (∃ t text, (sampleTwice.submit (.vote (Devnet.sampleProposal 7))).Runs t (done (.error (.exhausted .vote 2 text))) ∧
      Course sampleTwice (.vote (Devnet.sampleProposal 7)) 1 {} t (.error (.exhausted .vote 2 text)) ∧
      2 = max 1 sampleTwice.retry.maxAttempts ∧
      (t.countP fun x => x.request.isSend) ≤ max 1 sampleTwice.retry.maxAttempts) ∧
    ∀ relayer ledger, (sampleTwice.submit (.vote (Devnet.sampleProposal 7))).Ends (Devnet.Ledger.world relayer)
      (fun _ _ => True) ledger := by
  obtain ⟨course, attempts, sends, ends⟩ := submission_follows_policy sampleTwice (.vote (Devnet.sampleProposal 7))
  refine ⟨?_, fun relayer ledger => ends hasDelays_sampleTwice _ _ _ ledger attended_ledger trivial⟩
  obtain ⟨t, hr⟩ := runs_unanswered (.vote (Devnet.sampleProposal 7)) "no answer"
  exact ⟨t, _, hr, course t _ hr, attempts t _ _ _ hr, sends t _ hr⟩

end Signer

end BridgeRelay
