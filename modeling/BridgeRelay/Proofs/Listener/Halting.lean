import BridgeRelay.Proofs.Listener.History
import BridgeRelay.Proofs.Listener.Rounds

/-!
# How a listener ends

A listener ends because it saw the stop flag, or it halts at an error, which it reports last and only once. Main
statement: the error is fatal for the chain, unless the listener was to stop while it could not read the head of the
chain to begin with.
-/

namespace BridgeRelay.Listener

open Program

variable {l : Listener} {t u : Trace} {e : RelayError}

/-! ## Reports -/

/-- The reports that were put on the channel, in order. -/
def reports (t : Trace) : List Report := t.filterMap fun
  | ⟨.report r, _⟩ => some r
  | _ => none

@[simp] theorem reports_append : reports (t ++ u) = reports t ++ reports u := by
  simp [reports]

@[simp] theorem reports_nil : reports [] = [] := rfl

@[simp] theorem reports_report (r : Report) (a : Unit) (t : Trace) :
    reports (⟨.report r, a⟩ :: t) = r :: reports t := rfl

@[simp] theorem reports_chain (q : SourceQuery) (a : q.Answer) (t : Trace) :
    reports (⟨.chain q, a⟩ :: t) = reports t := rfl

@[simp] theorem reports_host (r : HostRequest) (a : r.Answer) (t : Trace) :
    reports (⟨.host r, a⟩ :: t) = reports t := rfl

@[simp] theorem reports_store (r : StoreRequest) (a : r.Answer) (t : Trace) :
    reports (⟨.store r, a⟩ :: t) = reports t := rfl

/-- No error at which the chain has to halt was reported. -/
def Alarmless (t : Trace) : Prop := ∀ r ∈ reports t, r.error.isFatal = false

theorem Alarmless.snoc {x : Exchange ListenerInterface} (h : Alarmless t) (hx : x.request.IsCalm) :
    Alarmless (t ++ [x]) := by
  intro r hr
  rw [reports_append, List.mem_append] at hr
  rcases hr with hr | hr
  · exact h r hr
  · obtain ⟨request, answer⟩ := x
    cases request with
    | report r' =>
        cases List.mem_singleton.mp hr
        exact hx
    | _ => cases hr

theorem Alarmless.ne (h : Alarmless t) (he : e.isFatal = true) : ∀ r ∈ reports t, r.error ≠ e := by
  rintro r hr rfl
  rw [h r hr] at he
  cases he

/-! ## The head of the chain -/

/-- The world in which a listener may ask anything. -/
abbrev anything : World ListenerInterface Trace := .traced fun _ _ => True

/-- An exchange while the head of the chain cannot be read: with the host, or a failed read. -/
def Waits (x : Exchange ListenerInterface) : Prop :=
  (∃ r a, x = ⟨.host r, a⟩) ∨ ∃ failure, x = ⟨.chain .head, .error failure⟩

def Waiting (t : Trace) : Prop := ∀ x ∈ t, Waits x

theorem waiting_nil : Waiting [] := by simp [Waiting]

theorem Waiting.snoc {x : Exchange ListenerInterface} (h : Waiting t) (hx : Waits x) : Waiting (t ++ [x]) := by
  intro y hy
  rcases List.mem_append.mp hy with hy | hy
  · exact h y hy
  · rw [List.mem_singleton.mp hy]
    exact hx

theorem Waiting.host {r : HostRequest} {a : r.Answer} (h : Waiting t) : Waiting (t ++ [⟨.host r, a⟩]) :=
  h.snoc (.inl ⟨r, a, rfl⟩)

theorem Waiting.failed {failure : ChainError} (h : Waiting t) : Waiting (t ++ [⟨.chain .head, .error failure⟩]) :=
  h.snoc (.inr ⟨failure, rfl⟩)

theorem Waiting.reports_eq (h : Waiting t) : reports t = [] := by
  refine List.filterMap_eq_nil_iff.mpr fun x hx => ?_
  obtain ⟨r, a, rfl⟩ | ⟨failure, rfl⟩ := h x hx <;> rfl

/-- How the reads of the head end that a listener makes to begin with: with the head, because the listener is to stop,
or at a failure that does not pass. -/
inductive HeadRead : Result Height → Trace → Prop where
  | read {before : Trace} {head : Height} (h : Waiting before) :
      HeadRead (.ok head) (before ++ [⟨.chain .head, .ok head⟩])
  | left {before : Trace} {failure : ChainError} (h : Waiting before)
      (retryable : (RelayError.ofChain failure).isRetryable = true) :
      HeadRead (.error (.ofChain failure)) (before ++ [⟨.chain .head, .error failure⟩, ⟨.host .stopping, true⟩])
  | failed {before : Trace} {failure : ChainError} (h : Waiting before)
      (final : (RelayError.ofChain failure).isFatal = true) :
      HeadRead (.error (.ofChain failure)) (before ++ [⟨.chain .head, .error failure⟩])

theorem keeps_head : (l.insist (Source.query .head)).Keeps anything HeadRead [] := by
  refine keeps_insist_cases Waiting waiting_nil (fun _ _ _ => trivial) (fun _ _ _ => .host) fun t h => ?_
  refine keeps_ask_traced.mpr ⟨trivial, fun answer => keeps_done.mpr ?_⟩
  rcases answer with failure | head
  · refine ⟨h.failed, ?_⟩
    split
    · next retryable =>
        rw [List.append_assoc]
        exact .left h retryable
    · next final =>
        exact .failed h ((RelayError.ofScan_ofChain failure).isRetryable_or_isFatal.resolve_left final)
  · exact .read h

/-! ## Ends -/

/-- A listener that begins at the head of the chain was to stop when the head could not be read, as ever before. -/
structure LeftAtStart (l : Listener) (e : RelayError) (t : Trace) : Prop where
  latest : l.latestBlock = true
  retryable : e.isRetryable = true
  left : ∃ before failure, e = .ofChain failure ∧ Waiting before ∧
    t = before ++ [⟨.chain .head, .error failure⟩, ⟨.host .stopping, true⟩]

/-- An error at which a listener halts, before it is reported. -/
structure Halts (l : Listener) (e : RelayError) (t : Trace) : Prop where
  unreported : ∀ r ∈ reports t, r.error ≠ e
  cause : e.isFatal = true ∨ l.LeftAtStart e t

/-- How a run ends: with a look at the stop flag, or with the report of the error at which the listener halts. -/
inductive Ended (l : Listener) : Result Unit → Trace → Prop where
  | stopped {t : Trace} : Ended l (.ok ()) (t ++ [⟨.host .stopping, true⟩])
  | halted {e : RelayError} {t : Trace} (h : l.Halts e t) :
      Ended l (.error e) (t ++ [⟨.report ⟨l.domain, .listener, e⟩, ()⟩])

theorem keeps_start_halts : l.start.Keeps anything (Started (fun _ => Alarmless) l.Halts) [] := by
  have alarmless {t : Trace} (quiet : reports t = []) : Alarmless t := by simp [Alarmless, quiet]
  unfold start
  split
  · next latest =>
      refine keeps_do.mpr (keeps_head.mono fun r t h => ?_)
      cases h with
      | read h => exact alarmless (by simp [h.reports_eq])
      | left h retryable => exact ⟨by simp [h.reports_eq], .inr ⟨latest, retryable, _, _, rfl, h, rfl⟩⟩
      | failed h final => exact ⟨by simp [h.reports_eq], .inl final⟩
  · split
    · exact alarmless rfl
    · refine keeps_do.mpr (Listener.keeps_get.mpr ⟨trivial, fun loaded => ?_⟩)
      rcases loaded.bind (Checkpoint.decode l.domain) with e | stored
      · exact ⟨by simp, .inl rfl⟩
      · exact alarmless rfl

/-! ## Rounds -/

theorem rounds_halts : Rounds l anything (fun _ => Alarmless) l.Halts l.Ended where
  host c t r _ h := keeps_ask_traced.mpr ⟨trivial, fun a => h.snoc (x := ⟨.host r, a⟩) trivial⟩
  stop c t h := keeps_stopping.mpr ⟨trivial, fun stopping => by
    cases stopping with
    | true => exact .stopped
    | false => exact h.snoc (x := ⟨.host .stopping, false⟩) trivial⟩
  poll c t h := by
    have alarmless : (l.poll c).Keeps anything (fun _ => Alarmless) t :=
      asks_poll.keeps h (fun _ _ h hd => hd ▸ h) (fun _ _ _ _ => trivial) fun t x t' hx h ht => ht ▸ h.snoc hx
    refine (alarmless.and_gives gives_poll).mono ?_
    rintro (e | (_ | _ | _)) t ⟨h, failed⟩
    · simp only [Looked]
      split
      · exact h
      · next final =>
          have fatal := (failed e rfl).resolve_left final
          exact ⟨h.ne fatal, .inl fatal⟩
    · exact h
    · exact h
    · exact h
  halt e t h := keeps_do.mpr (keeps_report.mpr ⟨trivial, fun _ => .halted h⟩)

theorem ended_of_runs {r : Result Unit} (run : l.run.Runs t (done r)) : l.Ended r t :=
  (rounds_halts.keeps_run keeps_start_halts).done_traced run

/-! ## Main statement -/

/-- A listener ends without an error only after it saw the stop flag, and otherwise at an error that it reports exactly
once, and last. That error is fatal for the chain, unless the listener was to begin at the head of the chain and saw the
stop flag when it could not be read. -/
theorem ends_stopped_or_fatal {r : Result Unit} (run : l.run.Runs t (done r)) :
    (r = .ok () → ∃ before, t = before ++ [⟨.host .stopping, true⟩]) ∧
    ∀ e, r = .error e → (reports t).filter (fun report => report.error = e) = [⟨l.domain, .listener, e⟩] ∧
      ∃ before, t = before ++ [⟨.report ⟨l.domain, .listener, e⟩, ()⟩] ∧
        (e.isFatal = true ∨ l.LeftAtStart e before) := by
  cases ended_of_runs run with
  | stopped => exact ⟨fun _ => ⟨_, rfl⟩, nofun⟩
  | @halted e t h =>
      refine ⟨nofun, ?_⟩
      rintro _ ⟨rfl⟩
      have before : (reports t).filter (fun report => report.error = e) = [] :=
        List.filter_eq_nil_iff.mpr (by simpa using h.unreported)
      exact ⟨by simp [before], _, rfl, h.cause⟩

/-- A log that is no deposit. -/
def sampleNoDeposit : DepositLog := ⟨[], [], some 3, none, none⟩

/-- A scan of three blocks that meets such a log. -/
def sampleMalformed : Trace :=
  [⟨.store (.load (Checkpoint.key 1)), .ok none⟩, ⟨.host .stopping, false⟩, ⟨.chain .head, .ok 8⟩,
   ⟨.host (.record (.latestBlock 1 8)), ()⟩, ⟨.chain (.deposits 1 3), .ok [sampleNoDeposit]⟩,
   ⟨.host .stopping, false⟩, ⟨.report ⟨1, .listener, undecodable sampleNoDeposit .missingTopic⟩, ()⟩]

theorem sample_ends_fatal : ∃ e, sample.run.Runs sampleMalformed (done (.error e)) ∧
    (reports sampleMalformed).filter (fun report => report.error = e) = [⟨1, .listener, e⟩] ∧ e.isFatal = true := by
  have run : sample.run.Runs sampleMalformed (done (.error (undecodable sampleNoDeposit .missingTopic))) :=
    .ask rfl (.silent rfl (.ask rfl (.ask rfl (.ask rfl (.ask rfl (.ask rfl (.ask rfl .stay)))))))
  obtain ⟨once, before, -, fatal | left⟩ := (ends_stopped_or_fatal run).2 _ rfl
  · exact ⟨_, run, once, fatal⟩
  · cases left.latest

/-! ## A start that is left -/

/-- A listener that begins at the head of the chain. -/
def sampleLatest : Listener := { sample with latestBlock := true }

theorem delay_sampleLatest : sampleLatest.delay 0 = done (.ofSeconds 2) := by
  have slept : (sampleLatest.backoff.backoff 0).toOption = some (.ofSeconds 2) := by decide +kernel
  unfold delay
  cases hb : sampleLatest.backoff.backoff 0 with
  | error fault => simp [hb, Except.toOption] at slept
  | ok d =>
      rw [hb, Except.toOption, Option.some.injEq] at slept
      rw [slept]
      rfl

/-- The head cannot be read, and when it is read again the listener is to stop. -/
def sampleLeaving (failure : ChainError) : Trace :=
  [⟨.chain .head, .error failure⟩, ⟨.host .stopping, false⟩, ⟨.host (.sleep (.ofSeconds 2)), ()⟩,
   ⟨.chain .head, .error failure⟩, ⟨.host .stopping, true⟩, ⟨.report ⟨1, .listener, .ofChain failure⟩, ()⟩]

/-- Whoever is to stop before the first look at the chain may end at an error that is not fatal. -/
theorem sample_leaves_with_passing_error : ∃ (l : Listener) (t : Trace) (e : RelayError),
    l.run.Runs t (done (.error e)) ∧ e.isFatal = false := by
  refine ⟨sampleLatest, sampleLeaving (.rpc "connection refused"), .transientNetwork "connection refused", ?_, rfl⟩
  apply Runs.silent rfl
  apply Runs.ask rfl
  apply Runs.ask rfl
  simp only [delay_sampleLatest]
  apply Runs.ask rfl
  apply Runs.silent rfl
  apply Runs.ask rfl
  apply Runs.ask rfl
  apply Runs.ask rfl
  exact .stay

end BridgeRelay.Listener
