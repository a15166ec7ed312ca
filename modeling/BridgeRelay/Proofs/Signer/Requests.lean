import BridgeRelay.Proofs.Program.World
import BridgeRelay.Signer

/-!
# Requests of a signer

Which requests the parts of a submission make that neither choose a nonce nor broadcast, and how a submission can
run: a transaction is accepted or refused, its receipt is late, the call is attempted again.
-/

namespace BridgeRelay

open Program Destination

/-- Asks for a price. -/
def WriterRequest.IsPricing : WriterRequest → Prop
  | .chain .gasPrice | .chain .baseFee | .chain .priorityFee => True
  | _ => False

/-- Asks for what a transaction needs: the pending nonce, or a price. -/
def WriterRequest.IsChoosing : WriterRequest → Prop
  | .chain .pendingNonce => True
  | r => r.IsPricing

theorem WriterRequest.IsPricing.isChoosing {r : WriterRequest} (h : r.IsPricing) : r.IsChoosing := by
  unfold WriterRequest.IsChoosing
  split
  · trivial
  · exact h

/-- Asks the host, or for a receipt. -/
def WriterRequest.IsWaiting : WriterRequest → Prop
  | .host _ | .chain (.receipt _) => True
  | _ => False

namespace GasSettings

theorem asks_legacyQuote {s : GasSettings} : s.legacyQuote.Asks WriterRequest.IsPricing := by
  refine ⟨trivial, fun price => ?_⟩
  cases price <;> trivial

theorem asks_londonQuote {s : GasSettings} : s.londonQuote.Asks WriterRequest.IsPricing := by
  refine ⟨trivial, fun baseFee => ?_⟩
  rcases baseFee with e | _ | baseFee
  · trivial
  · exact asks_legacyQuote
  · refine ⟨trivial, fun tip => ?_⟩
    cases tip <;> trivial

theorem asks_quote {s : GasSettings} {m : GasPricing} : (s.quote m).Asks WriterRequest.IsPricing := by
  cases m with
  | static => exact asks_legacyQuote
  | london => exact asks_londonQuote

end GasSettings

namespace Signer

theorem asks_require {α : Type} {r : Except Duration.Fault α} :
    (Host.require r : Program WriterInterface α).Asks WriterRequest.IsWaiting := by
  cases r with
  | ok a => trivial
  | error fault => exact ⟨trivial, fun e : Empty => nomatch e⟩

theorem asks_postpone {s : Signer} {c : ErrorClass} {d : Duration} :
    (s.postpone c d).Asks WriterRequest.IsWaiting := ⟨trivial, fun _ => ⟨trivial, fun _ => trivial⟩⟩

theorem asks_awaitReceipt {c : Confirmation} {tx : Hash} : (awaitReceipt c tx).Asks WriterRequest.IsWaiting := by
  refine ⟨trivial, fun start => Asks.iterate fun _ => ⟨trivial, fun receipt => ?_⟩⟩
  rcases receipt with e | _ | success
  all_goals try trivial
  all_goals
    refine ⟨trivial, fun now => ?_⟩
    dsimp only [Program.bind]
    split
    · trivial
    · exact ⟨trivial, fun _ => trivial⟩

/-- Belongs to the submission of a call: broadcasts no other call, and reads nothing from the bridge. -/
def OfSubmission (call : BridgeCall) : WriterRequest → Prop
  | .chain (.send c _) => c = call
  | .chain (.handler _) | .chain (.proposal ..) | .chain (.hasVoted ..) | .enter | .leave => False
  | _ => True

theorem ofSubmission_of_choosing {call : BridgeCall} {r : WriterRequest} (h : r.IsChoosing) :
    OfSubmission call r := by
  rcases r with (_ | _ | _ | _ | _ | _ | _ | _ | _) | _ | _ | _ | _ | _ <;> trivial

theorem ofSubmission_of_waiting {call : BridgeCall} {r : WriterRequest} (h : r.IsWaiting) :
    OfSubmission call r := by
  rcases r with (_ | _ | _ | _ | _ | _ | _ | _ | _) | _ | _ | _ | _ | _ <;> trivial

theorem asks_choose {s : Signer} {bumps : Nat} {stuck next : Option UInt64} :
    (s.choose bumps stuck next).Asks WriterRequest.IsChoosing := by
  refine Asks.bind ?_ fun nonce => ?_
  · unfold chooseNonce
    split
    · trivial
    · exact ⟨trivial, fun _ => trivial⟩
  · cases nonce with
    | error e => trivial
    | ok nonce =>
        refine Asks.bind (GasSettings.asks_quote.mono fun _ => WriterRequest.IsPricing.isChoosing) fun price => ?_
        cases price <;> trivial

theorem asks_broadcast {s : Signer} {call : BridgeCall} {bumps : Nat} {stuck : Option UInt64} :
    (s.broadcast call bumps stuck).Asks (OfSubmission call) := by
  refine Asks.bind ⟨trivial, fun _ => trivial⟩ fun next => ?_
  refine Asks.bind (asks_choose.mono fun _ => ofSubmission_of_choosing) fun o => ?_
  cases o with
  | error e => exact ⟨trivial, fun _ => trivial⟩
  | ok o =>
      refine ⟨rfl, fun answer => ?_⟩
      cases answer <;> exact ⟨trivial, fun _ => trivial⟩

theorem asks_attempt {s : Signer} {call : BridgeCall} {p : Pending} :
    (s.attempt call p).Asks (OfSubmission call) := by
  refine Asks.bind asks_broadcast fun sent => ?_
  rcases sent with e | ⟨tx, nonce⟩
  · trivial
  · refine Asks.bind (asks_awaitReceipt.mono fun _ => ofSubmission_of_waiting) fun receipt => ?_
    rcases receipt with e | _ | _ <;> trivial

theorem asks_submitFrom {s : Signer} {call : BridgeCall} {r : RetryRecord} {p : Pending} :
    (s.submitFrom call r p).Asks (OfSubmission call) := by
  have postponing (c : ErrorClass) (d : Duration) : (s.postpone c d).Asks (OfSubmission call) :=
    asks_postpone.mono fun _ => ofSubmission_of_waiting
  rw [submitFrom]
  refine Asks.bind asks_attempt ?_
  rintro ⟨e | tx, p'⟩
  · dsimp only
    split
    · exact asks_require.mono fun _ => ofSubmission_of_waiting
    · trivial
    · trivial
    · exact Asks.bind (postponing _ _) fun _ => asks_submitFrom
    · refine Asks.bind ⟨trivial, fun _ => ⟨trivial, fun _ => trivial⟩⟩ fun _ => ?_
      exact Asks.bind (postponing _ _) fun _ => asks_submitFrom
    · exact Asks.bind (postponing _ _) fun _ => asks_submitFrom
  · trivial
termination_by r.policy.maxAttempts - r.attempt
decreasing_by all_goals exact RetryRecord.left_fail_lt (by assumption) rfl

theorem asks_submit {s : Signer} {call : BridgeCall} : (s.submit call).Asks (OfSubmission call) := asks_submitFrom

/-! ## Failures -/

/-- No attempt follows such a failure. -/
def IsFinal (e : ChainError) : Prop :=
  ErrorClass.ofError e = .permanent ∨ ErrorClass.ofError e = .alreadyProcessed

theorem isFinal_reverted (reason : String) : IsFinal (.reverted reason) := by
  simp only [IsFinal, ErrorClass.ofError]
  split
  · exact .inr rfl
  · exact .inl rfl

theorem not_isFinal_of_next {r : RetryRecord} {e : ChainError} {a : RetryAction} (hn : (r.fail e).next = .ok a) (ha : a.isRetry) :
    ¬ IsFinal e := by
  rintro (hc | hc)
  all_goals
    simp only [RetryRecord.next, RetryRecord.fail, Option.map_some, hc, Except.ok.injEq] at hn
    subst hn
    cases ha

/-! ## Runs -/

variable {s : Signer} {call : BridgeCall} {r : RetryRecord} {p : Pending} {d : Duration}
  {t : List (Exchange WriterInterface)}

/-- What may be asked for before a broadcast: the pending nonce, and the price of a chain without base fees. -/
def Asked (pending : UInt64) (x : Exchange WriterInterface) : Prop :=
  x = ⟨.chain .pendingNonce, .ok pending⟩ ∨ x = ⟨.chain .baseFee, .ok none⟩ ∨ x = ⟨.chain .gasPrice, .ok 0⟩

theorem runs_quote (g : GasSettings) (m : GasPricing) (pending : UInt64) :
    ∃ t price, (g.quote m).Runs t (done (.ok price)) ∧ ∀ x ∈ t, Asked pending x := by
  cases m with
  | static => exact ⟨[⟨.chain .gasPrice, .ok 0⟩], _, .ask rfl .stay, by simp [Asked]⟩
  | london =>
      exact ⟨[⟨.chain .baseFee, .ok none⟩, ⟨.chain .gasPrice, .ok 0⟩], _, .ask rfl (.ask rfl .stay), by simp [Asked]⟩

theorem runs_choose (s : Signer) (bumps : Nat) (stuck next : Option UInt64) (pending : UInt64) :
    ∃ t o, o.nonce = (stuck.or next).getD pending ∧ (∀ x ∈ t, Asked pending x) ∧
      (s.choose bumps stuck next).Runs t (done (.ok o)) := by
  obtain ⟨u, price, hu, asked⟩ := runs_quote s.gas s.pricing pending
  let o (nonce : UInt64) : TransactionOptions :=
    ⟨nonce, s.gasLimit, price.bumpedTimes bumps s.retry.bumpPercent s.ceiling⟩
  cases hn : stuck.or next with
  | some nonce =>
      refine ⟨u, o nonce, rfl, asked, ?_⟩
      simp only [choose, chooseNonce, hn]
      exact hu.bind _
  | none =>
      refine ⟨⟨.chain .pendingNonce, .ok pending⟩ :: u, o pending, rfl, ?_, ?_⟩
      · exact List.forall_mem_cons.mpr ⟨.inl rfl, asked⟩
      · simp only [choose, chooseNonce, hn]
        exact .ask rfl (hu.bind _)

theorem runs_accepted (s : Signer) (call : BridgeCall) (bumps : Nat) (stuck next : Option UInt64) (pending : UInt64)
    (tx : Hash) : ∃ t o, o.nonce = (stuck.or next).getD pending ∧ (∀ x ∈ t, Asked pending x) ∧
      (s.broadcast call bumps stuck).Runs (⟨.takeNonce, next⟩ :: (t ++ [⟨.chain (.send call o), .ok tx⟩,
        ⟨.giveNonce (some (nextNonce next o.nonce)), ()⟩])) (done (.ok (tx, o.nonce))) := by
  obtain ⟨t, o, ho, asked, ht⟩ := s.runs_choose bumps stuck next pending
  exact ⟨t, o, ho, asked, .ask rfl ((ht.bind _).trans (.ask rfl (.ask rfl .stay)))⟩

theorem runs_refused (s : Signer) (call : BridgeCall) (bumps : Nat) (stuck next : Option UInt64) (pending : UInt64)
    (e : ChainError) : ∃ t o, o.nonce = (stuck.or next).getD pending ∧ (∀ x ∈ t, Asked pending x) ∧
      (s.broadcast call bumps stuck).Runs (⟨.takeNonce, next⟩ :: (t ++ [⟨.chain (.send call o), .error e⟩,
        ⟨.giveNonce none, ()⟩])) (done (.error e)) := by
  obtain ⟨t, o, ho, asked, ht⟩ := s.runs_choose bumps stuck next pending
  exact ⟨t, o, ho, asked, .ask rfl ((ht.bind _).trans (.ask rfl (.ask rfl .stay)))⟩

/-- The count of a retry and the sleep before it. -/
def postponed (s : Signer) (c : ErrorClass) (d : Duration) : List (Exchange WriterInterface) :=
  [⟨.host (.record (.txRetry s.domain c.label)), ()⟩, ⟨.host (.sleep d), ()⟩]

theorem runs_postponed (s : Signer) (c : ErrorClass) (d : Duration) :
    (s.postpone c d).Runs (s.postponed c d) (done ()) := .ask rfl (.ask rfl .stay)

theorem isWaiting_of_postponed {x : Exchange WriterInterface} {c : ErrorClass} (hx : x ∈ s.postponed c d) :
    x.request.IsWaiting := by
  simp only [postponed, List.mem_cons, List.not_mem_nil, or_false] at hx
  rcases hx with rfl | rfl <;> trivial

/-- A look for a receipt that is not there, after which the time for it is over. -/
def unmined (c : Confirmation) (tx : Hash) : List (Exchange WriterInterface) :=
  [⟨.host .now, (0 : Nat)⟩, ⟨.chain (.receipt tx), .ok none⟩, ⟨.host .now, (c.timeout.nanos : Nat)⟩]

theorem runs_unmined (c : Confirmation) (tx : Hash) :
    (awaitReceipt c tx).Runs (unmined c tx) (done (.error (.timeout (Confirmation.lateText c tx)))) := by
  refine .ask rfl (.silent rfl (.ask rfl (.ask rfl ?_)))
  dsimp only [done_bind]
  rw [if_pos (Nat.le_of_eq (Nat.zero_add _))]
  exact .stay

theorem isWaiting_of_unmined {x : Exchange WriterInterface} {c : Confirmation} {tx : Hash} (hx : x ∈ unmined c tx) :
    x.request.IsWaiting := by
  simp only [unmined, List.mem_cons, List.not_mem_nil, or_false] at hx
  rcases hx with rfl | rfl | rfl <;> trivial

/-- A transaction that is accepted and not mined in time is to be replaced at its nonce. -/
theorem runs_attempt_unmined {tx : Hash} {nonce : UInt64}
    (hb : (s.broadcast call p.bumps p.stuck).Runs t (done (.ok (tx, nonce)))) :
    (s.attempt call p).Runs (t ++ unmined s.confirmation tx)
      (done (.error (.timeout (Confirmation.lateText s.confirmation tx)), ⟨p.bumps + 1, some nonce⟩)) :=
  (hb.bind _).trans ((runs_unmined s.confirmation tx).bind _)

theorem runs_attempt_late {tx : Hash} {nonce : UInt64}
    (hb : (s.broadcast call p.bumps p.stuck).Runs t (done (.ok (tx, nonce)))) :
    ∃ u, (s.attempt call p).Runs (t ++ u)
      (done (.error (.timeout (Confirmation.lateText s.confirmation tx)), ⟨p.bumps + 1, some nonce⟩)) ∧
      ∀ x ∈ u, x.request.IsWaiting :=
  ⟨_, runs_attempt_unmined hb, fun _ => isWaiting_of_unmined⟩

theorem runs_attempt_refused {e : ChainError} (hb : (s.broadcast call p.bumps p.stuck).Runs t (done (.error e))) :
    (s.attempt call p).Runs t (done (.error e, p)) := hb.bind _

theorem runs_submitFrom_broadcast {x : Except ChainError (Hash × UInt64)}
    (hb : (s.broadcast call p.bumps p.stuck).Runs t (done x)) : ∃ q, (s.submitFrom call r p).Runs t q := by
  rw [submitFrom]
  exact ⟨_, (hb.bind _).bind _⟩

theorem next_timeout (text : String) (h : r.attempt + 1 < r.policy.maxAttempts)
    (hd : r.policy.backoff r.attempt = .ok d) : (r.fail (.timeout text)).next = .ok (.retryAfter d) := by
  simp [RetryRecord.next, RetryRecord.fail, RetryPolicy.allows, ErrorClass.ofError, h, hd, Except.map]

theorem runs_postponed_retry {e : ChainError} {p' : Pending} (hn : (r.fail e).next = .ok (.retryAfter d))
    (ha : (s.attempt call p).Runs t (done (.error e, p'))) :
    (s.submitFrom call r p).Runs (t ++ s.postponed (.ofError e) d) (s.submitFrom call (r.fail e) p') := by
  rw [submitFrom]
  refine (ha.bind _).trans ?_
  dsimp only [done_bind]
  split <;> simp_all
  exact (runs_postponed s _ d).bind _

theorem runs_retryAfter {e : ChainError} {p' : Pending} (hn : (r.fail e).next = .ok (.retryAfter d))
    (ha : (s.attempt call p).Runs t (done (.error e, p'))) :
    ∃ u, (s.submitFrom call r p).Runs (t ++ u) (s.submitFrom call (r.fail e) p') ∧
      ∀ x ∈ u, x.request.IsWaiting :=
  ⟨_, runs_postponed_retry hn ha, fun _ => isWaiting_of_postponed⟩

/-- After a conflict of nonces the call forgets at which nonce it is stuck. -/
theorem runs_refreshNonce {e : ChainError} {p' : Pending} (next : Option UInt64)
    (hn : (r.fail e).next = .ok (.refreshNonce d)) (ha : (s.attempt call p).Runs t (done (.error e, p'))) :
    ∃ u, (s.submitFrom call r p).Runs (t ++ (⟨.takeNonce, next⟩ :: ⟨.giveNonce none, ()⟩ :: u))
      (s.submitFrom call (r.fail e) { p' with stuck := none }) ∧ ∀ x ∈ u, x.request.IsWaiting := by
  refine ⟨s.postponed (.ofError e) d, ?_, fun _ => isWaiting_of_postponed⟩
  rw [submitFrom]
  refine (ha.bind _).trans ?_
  dsimp only [done_bind]
  split <;> simp_all
  exact .ask rfl (.ask rfl ((runs_postponed s _ d).bind _))

theorem runs_attempt_mined {tx : Hash} {nonce : UInt64}
    (hb : (s.broadcast call p.bumps p.stuck).Runs t (done (.ok (tx, nonce)))) :
    (s.attempt call p).Runs (t ++ [⟨.host .now, (0 : Nat)⟩, ⟨.chain (.receipt tx), .ok (some true)⟩])
      (done (.ok tx, p)) :=
  (hb.bind _).trans (.ask rfl (.silent rfl (.ask rfl .stay)))

theorem runs_submitFrom_mined {tx : Hash} {p' : Pending} (ha : (s.attempt call p).Runs t (done (.ok tx, p'))) :
    (s.submitFrom call r p).Runs t (done (.ok (.confirmed tx))) := by
  rw [submitFrom]
  exact ha.bind _

theorem runs_submitFrom_processed {e : ChainError} {p' : Pending} (he : ErrorClass.ofError e = .alreadyProcessed)
    (ha : (s.attempt call p).Runs t (done (.error e, p'))) :
    (s.submitFrom call r p).Runs t (done (.ok .alreadyProcessed)) := by
  have hn : (r.fail e).next = .ok .alreadyProcessed := by simp [RetryRecord.next, RetryRecord.fail, he]
  rw [submitFrom]
  refine (List.append_nil t) ▸ (ha.bind _).trans ?_
  dsimp only [done_bind]
  split <;> simp_all
  exact .stay

/-- A call whose transaction is accepted and mined with success. -/
theorem runs_confirmed (s : Signer) (call : BridgeCall) (tx : Hash) : ∃ t o, (∀ x ∈ t, Asked 0 x) ∧
    (s.submit call).Runs (⟨.takeNonce, none⟩ :: (t ++ [⟨.chain (.send call o), .ok tx⟩,
      ⟨.giveNonce (some (nextNonce none o.nonce)), ()⟩, ⟨.host .now, (0 : Nat)⟩,
      ⟨.chain (.receipt tx), .ok (some true)⟩])) (done (.ok (.confirmed tx))) := by
  obtain ⟨t, o, -, asked, h⟩ := s.runs_accepted call 0 none none 0 tx
  have hr : (s.submit call).Runs _ (done (.ok (.confirmed tx))) :=
    runs_submitFrom_mined (runs_attempt_mined (p := {}) h)
  exact ⟨t, o, asked, by simpa using hr⟩

/-- A call that is answered with what counts as done already. -/
theorem runs_alreadyProcessed (s : Signer) (call : BridgeCall) {e : ChainError}
    (he : ErrorClass.ofError e = .alreadyProcessed) : ∃ t u o,
    (s.submit call).Runs (t ++ ⟨.chain (.send call o), .error e⟩ :: u) (done (.ok .alreadyProcessed)) := by
  obtain ⟨t, o, -, -, h⟩ := s.runs_refused call 0 none none 0 e
  have hr : (s.submit call).Runs _ (done (.ok .alreadyProcessed)) :=
    runs_submitFrom_processed he (runs_attempt_refused (p := {}) h)
  exact ⟨⟨.takeNonce, none⟩ :: t, _, o, by simpa using hr⟩

/-! ## A sample -/

/-- A signer with the usual settings. -/
def sample : Signer := { domain := 1, gasLimit := 300000, ceiling := none, retry := {} }

theorem backoff_sample : ∃ d, sample.retry.backoff 0 = .ok d := by
  have h : (sample.retry.backoff 0).toOption = some (.ofSeconds 2) := by decide +kernel
  cases hb : sample.retry.backoff 0 with
  | error fault => simp [hb, Except.toOption] at h
  | ok d => exact ⟨d, rfl⟩

end Signer

end BridgeRelay
