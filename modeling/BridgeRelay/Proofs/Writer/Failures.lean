import BridgeRelay.Proofs.Signer.Verdict
import BridgeRelay.Proofs.Writer.Interruption

/-!
# Failures of a writer

Why a write ends with a failure. A failed call is handed on only after the bridge was asked again and told that the call
is still missing, and a read that fails is made again or ends the write with its own failure.
-/

namespace BridgeRelay

open Program Destination

/-- The call that failed. -/
def TransactionError.call : TransactionError → CallKind
  | .exhausted call .. | .rejected call _ => call

namespace Signer

variable {s : Signer} {call : BridgeCall} {t : List (Exchange WriterInterface)} {failure : TransactionError}

theorem call_of_verdict {kind : CallKind} {i : Nat} {x : Except ChainError Hash}
    (h : verdict kind i x = .error failure) : failure.call = kind := by
  rcases x with e | tx
  · cases hc : ErrorClass.ofError e <;> simp only [verdict, hc] at h <;> cases h <;> rfl
  · cases h

theorem Course.call_of_error {i : Nat} {p : Pending} {a : Except TransactionError Submission}
    (h : Course s call i p t a) (ha : a = .error failure) : failure.call = call.kind := by
  induction h with
  | ends _ _ _ => exact call_of_verdict ha
  | again _ _ _ _ ih => exact ih ha

theorem call_of_failure (hr : (s.submit call).Runs t (done (.error failure))) : failure.call = call.kind :=
  (course_submitFrom rfl hr).call_of_error rfl

end Signer

namespace Writer

variable {w : Writer} {m : Message} {p : Proposal} {α : Type} {t u v : Trace}
  {ask : Except ChainError α → Exchange WriterInterface}

/-! ## Repeated reads -/

/-- A question is asked, and again after a sleep while its failure may pass and `left` more times are allowed, until it
is answered for the last time. -/
inductive Reads (ask : Except ChainError α → Exchange WriterInterface) : Nat → Except ChainError α → Trace → Prop where
  | last {left : Nat} {a : Except ChainError α}
      (settled : ∀ e, a = .error e → (ErrorClass.ofError e).isPassing = true → left = 0) : Reads ask left a [ask a]
  | again {left : Nat} {e : ChainError} {d : Duration} {a : Except ChainError α} {t : Trace}
      (passing : (ErrorClass.ofError e).isPassing = true) (rest : Reads ask left a t) :
      Reads ask (left + 1) a (ask (.error e) :: ⟨.host (.sleep d), ()⟩ :: t)

/-- The record of a proposal is asked for. -/
def recordRead (p : Proposal) (a : Except ChainError ProposalState) : Exchange WriterInterface :=
  ⟨.chain (.proposal p.origin p.nonce p.dataHash), a⟩

/-- It is asked whether a relayer's vote is recorded. -/
def voteRead (p : Proposal) (relayer : Address) (a : Except ChainError Bool) : Exchange WriterInterface :=
  ⟨.chain (.hasVoted p relayer), a⟩

/-- The handler of a resource is asked for. -/
def handlerRead (r : ResourceId) (a : Except ChainError Address) : Exchange WriterInterface := ⟨.chain (.handler r), a⟩

theorem eq_nil_of_require {r : Except Duration.Fault α} {a : α}
    (hr : (Host.require r : Program WriterInterface α).Runs t (done a)) : t = [] := by
  cases r with
  | ok b => exact hr.of_done.1
  | error fault =>
      -- without a delay there is no end
      obtain ⟨absurd, -⟩ := hr.of_bind_done
      exact nomatch absurd

theorem reads_of_readFrom {r : RetryPolicy} {q : Program WriterInterface (Except ChainError α)}
    (hq : ∀ t a, q.Runs t (done a) → t = [ask a]) {attempt left : Nat} {a : Except ChainError α}
    (hr : (r.readFrom q attempt left).Runs t (done a)) :
    Reads ask left a t := by
  -- on the attempts that are left; the number of an attempt only sets the delay behind it
  induction left generalizing attempt t with
  | zero =>
      rw [hq t a hr]
      exact .last fun _ _ _ => rfl
  | succ left ih =>
      obtain ⟨e | b, u, v, rfl, hu, hv⟩ := hr.of_bind_done
      · rw [hq u _ hu]
        dsimp only at hv
        split at hv
        case isTrue passing =>
          obtain ⟨_, u, v, rfl, sleeps, again⟩ := hv.of_bind_done
          obtain ⟨d, u₁, u₂, rfl, delayed, slept⟩ := sleeps.of_bind_done
          obtain rfl := eq_nil_of_require delayed
          obtain rfl := slept.of_request
          exact .again passing (ih again)
        case isFalse settled =>
          obtain ⟨rfl, ha⟩ := hv.of_done
          cases ha
          exact .last fun _ he passing => by cases he; exact absurd passing settled
      · rw [hq u _ hu]
        obtain ⟨rfl, ha⟩ := hv.of_done
        cases ha
        exact .last nofun

theorem reads_of_read {q : Program WriterInterface (Except ChainError α)}
    (hq : ∀ t a, q.Runs t (done a) → t = [ask a]) {r : Result α} (hr : (w.read q).Runs t (done r)) :
    ∃ a, Reads ask (w.readRetry.maxAttempts - 1) a t ∧ r = a.mapError .read := by
  obtain ⟨e | a, u, v, rfl, hu, hv⟩ := hr.of_bind_done
  all_goals
    obtain ⟨rfl, ha⟩ := hv.of_done
    cases ha
    exact ⟨_, by simpa using reads_of_readFrom hq hu, rfl⟩

theorem failed_read {q : Program WriterInterface (Except ChainError α)} {e : DeliveryError}
    (hr : (w.read q).Runs t (done (.error e))) : ∃ e', e = .read e' := by
  obtain ⟨e' | a, u, v, rfl, -, hv⟩ := hr.of_bind_done <;> cases hv.of_done.2
  exact ⟨e', rfl⟩

theorem reads_of_read_ok {q : Program WriterInterface (Except ChainError α)}
    (hq : ∀ t a, q.Runs t (done a) → t = [ask a]) {a : α} (hr : (w.read q).Runs t (done (.ok a))) :
    Reads ask (w.readRetry.maxAttempts - 1) (.ok a) t := by
  obtain ⟨_ | a, reads, ha⟩ := reads_of_read hq hr <;> cases ha
  exact reads

theorem reads_state {state : ProposalState} (hr : (w.readState p).Runs t (done (.ok state))) :
    Reads (recordRead p) (w.readRetry.maxAttempts - 1) (.ok state) t :=
  reads_of_read_ok (fun _ _ => Runs.of_request) hr

theorem reads_vote {recorded : Bool} (hr : (w.readVote p).Runs t (done (.ok recorded))) :
    Reads (voteRead p w.relayer) (w.readRetry.maxAttempts - 1) (.ok recorded) t :=
  reads_of_read_ok (fun _ _ => Runs.of_request) hr

/-! ## Failed reads -/

/-- With what failure the bridge answers a question about itself. -/
def readFailure? : Exchange WriterInterface → Option ChainError
  | ⟨.chain (.handler _), .error e⟩ => some e
  | ⟨.chain (.proposal ..), .error e⟩ => some e
  | ⟨.chain (.hasVoted ..), .error e⟩ => some e
  | _ => none

/-- The failure of a read that is a result. -/
def readError? : Result α → Option ChainError
  | .error (.read e) => some e
  | _ => none

/-- The question is asked again after a sleep. -/
def Repeated (x : Exchange WriterInterface) (after : Trace) : Prop :=
  ∃ d y rest, after = ⟨.host (.sleep d), ()⟩ :: y :: rest ∧ y.request = x.request

/-- A read that fails is repeated, or it is the last exchange and its failure the result. -/
def Admits (result : Option ChainError) (t : Trace) : Prop :=
  ∀ before x after e, t = before ++ x :: after → readFailure? x = some e →
    Repeated x after ∨ after = [] ∧ result = some e

variable {result : Option ChainError}

theorem admits_of_forall (h : ∀ x ∈ t, readFailure? x = none) : Admits result t := by
  rintro before x after e rfl hx
  cases (h x (by simp)).symm.trans hx

theorem admits_nil : Admits result [] := admits_of_forall (List.forall_mem_nil _)

theorem Admits.after (h : Admits result v) (hu : Admits none u) : Admits result (u ++ v) := by
  intro before x after e ht hx
  rcases List.append_eq_append_iff.mp ht with ⟨before, rfl, rfl⟩ | ⟨_ | ⟨y, after⟩, rfl, hv⟩
  · exact h before x after e rfl hx
  · exact h [] x after e hv.symm hx
  · cases hv
    rcases hu before x after e rfl hx with ⟨d, y, rest, rfl, hy⟩ | ⟨-, h⟩
    · exact .inl ⟨d, y, rest ++ v, rfl, hy⟩
    · cases h

theorem Admits.left {r : Result α} {before after : Trace} {x : Exchange WriterInterface} {e : ChainError}
    (h : Admits (readError? r) t) (ht : t ++ [⟨.leave, ()⟩] = before ++ x :: after) (hx : readFailure? x = some e) :
    Repeated x after ∨ after = [⟨.leave, ()⟩] ∧ r = .error (.read e) := by
  rcases List.append_eq_append_iff.mp ht with ⟨u, rfl, hu⟩ | ⟨_ | ⟨y, after⟩, rfl, hv⟩
  · rcases u with _ | ⟨y, u⟩
    · cases hu
      cases hx
    · cases u <;> cases hu
  · cases hv
    cases hx
  · cases hv
    rcases h before x after e rfl hx with ⟨d, y, rest, rfl, hy⟩ | ⟨rfl, failed⟩
    · exact .inl ⟨d, y, rest ++ [⟨.leave, ()⟩], rfl, hy⟩
    · refine .inr ⟨rfl, ?_⟩
      rcases r with (_ | _ | _ | _) | _ <;> cases failed
      rfl

theorem Reads.exists_cons {left : Nat} {a : Except ChainError α}
    (h : Reads ask left a t) : ∃ b rest, t = ask b :: rest := by
  cases h with
  | last _ => exact ⟨a, [], rfl⟩
  | again _ _ => exact ⟨_, _, rfl⟩

/-- An exchange that asks the bridge about itself, by its answer. -/
structure IsQuestion (ask : Except ChainError α → Exchange WriterInterface) : Prop where
  fails (a : Except ChainError α) (e : ChainError) : readFailure? (ask a) = some e → a = .error e
  same (a b : Except ChainError α) : (ask a).request = (ask b).request

theorem isQuestion_recordRead : IsQuestion (recordRead p) where
  fails a e h := by cases a <;> cases h; rfl
  same _ _ := rfl

theorem isQuestion_voteRead {relayer : Address} : IsQuestion (voteRead p relayer) where
  fails a e h := by cases a <;> cases h; rfl
  same _ _ := rfl

theorem isQuestion_handlerRead {resource : ResourceId} : IsQuestion (handlerRead resource) where
  fails a e h := by cases a <;> cases h; rfl
  same _ _ := rfl

theorem Reads.admits (question : IsQuestion ask) {left : Nat} {a : Except ChainError α} (h : Reads ask left a t) :
    Admits (readError? (a.mapError DeliveryError.read)) t := by
  induction h with
  | last _ =>
      rintro (_ | ⟨y, before⟩) x after e ht hx
      · cases ht
        rw [question.fails _ e hx]
        exact .inr ⟨rfl, rfl⟩
      · cases before <;> cases ht
  | again _ rest ih =>
      -- the question itself, the sleep behind it, or an exchange of the rest
      rintro (_ | ⟨y, _ | ⟨z, before⟩⟩) x after e ht hx
      · obtain ⟨b, later, rfl⟩ := rest.exists_cons
        cases ht
        exact .inl ⟨_, ask b, later, rfl, question.same _ _⟩
      · cases ht
        cases hx
      · cases ht
        exact ih before x after e rfl hx

theorem admits_read (question : IsQuestion ask) {q : Program WriterInterface (Except ChainError α)}
    (hq : ∀ t a, q.Runs t (done a) → t = [ask a]) {r : Result α} (hr : (w.read q).Runs t (done r)) :
    Admits (readError? r) t := by
  obtain ⟨a, reads, rfl⟩ := reads_of_read hq hr
  exact reads.admits question

theorem admits_record {r : Result ProposalState} (hr : (w.readState p).Runs t (done r)) : Admits (readError? r) t :=
  admits_read isQuestion_recordRead (fun _ _ => Runs.of_request) hr

theorem admits_ballot {r : Result Bool} (hr : (w.readVote p).Runs t (done r)) : Admits (readError? r) t :=
  admits_read isQuestion_voteRead (fun _ _ => Runs.of_request) hr

theorem admits_lookup {resource : ResourceId} {r : Result Address}
    (hr : (w.read (query (.handler resource))).Runs t (done r)) : Admits (readError? r) t :=
  admits_read isQuestion_handlerRead (fun _ _ => Runs.of_request) hr

theorem admits_submit {s : Signer} {call : BridgeCall}
    {q : Program WriterInterface (Except TransactionError Submission)} (hr : (s.submit call).Runs t q) :
    Admits result t := by
  refine admits_of_forall fun x hx => ?_
  have of := Signer.asks_submit.runs hr x hx
  obtain ⟨(_ | _ | _ | _ | _ | _ | _ | _ | _) | _ | _ | _ | _ | _, answer⟩ := x <;> first | exact of.elim | rfl

theorem admits_host {r : HostRequest} {a : r.Answer}
    (hr : (Hosted.host r : Program WriterInterface r.Answer).Runs t (done a)) : Admits result t := by
  obtain rfl := Runs.of_request hr
  exact admits_of_forall fun x hx => by cases List.mem_singleton.mp hx; rfl

/-! ## Failed calls -/

/-- The bridge tells that a call on the proposal is still missing: that the proposal is open and the vote not recorded,
or that the proposal is not final. -/
inductive StillMissing (w : Writer) (p : Proposal) : CallKind → Trace → Prop where
  | vote {state : ProposalState} {rs vs : Trace} (status : state.status = .inactive ∨ state.status = .active)
      (told : Reads (recordRead p) (w.readRetry.maxAttempts - 1) (.ok state) rs)
      (unrecorded : Reads (voteRead p w.relayer) (w.readRetry.maxAttempts - 1) (.ok false) vs) :
      StillMissing w p .vote (rs ++ vs)
  | execution {state : ProposalState} {t : Trace} (status : state.status.isTerminal = false)
      (told : Reads (recordRead p) (w.readRetry.maxAttempts - 1) (.ok state) t) : StillMissing w p .execute t

/-- Broadcasts a call of a kind. -/
def Sends (kind : CallKind) : WriterRequest → Prop
  | .chain (.send call _) => call.kind = kind
  | _ => False

theorem isBroadcast_of_sends {kind : CallKind} {r : WriterRequest} (h : Sends kind r) : r.IsBroadcast := by
  rcases r with (_ | _ | _ | _ | _ | _ | _ | _ | _) | _ | _ | _ | _ <;> first | exact h.elim | trivial

theorem executes_of_sends {r : WriterRequest} (h : Sends .execute r) : Executes r := by
  rcases r with (_ | _ | _ | _ | _ | _ | _ | _ | _) | _ | _ | _ | _ <;> first | exact h.elim | exact h

/-- A call failed so, the first of its kind to be submitted, and afterwards the bridge told that it is still missing. -/
def Missed (w : Writer) (p : Proposal) (failure : TransactionError) (t : Trace) : Prop :=
  ∃ before sub after, t = before ++ (sub ++ after) ∧ (∀ x ∈ before, ¬ Sends failure.call x.request) ∧
    (w.signer.submit ⟨failure.call, p⟩).Runs sub (done (.error failure)) ∧ StillMissing w p failure.call after

theorem Missed.after {failure : TransactionError} (h : w.Missed p failure t)
    (hu : ∀ x ∈ u, ¬ Sends failure.call x.request) : w.Missed p failure (u ++ t) := by
  obtain ⟨before, sub, after, rfl, unsent, submitted, missing⟩ := h
  exact ⟨u ++ before, sub, after, by simp, List.forall_mem_append.mpr ⟨hu, unsent⟩, submitted, missing⟩

/-- The trace accounts for the failure that a part of a write ends with, of which only such calls can be the cause. -/
structure Accounts (w : Writer) (p : Proposal) (causes : CallKind → Prop) (t : Trace) (r : Result α) : Prop where
  reads : Admits (readError? r) t
  calls (failure : TransactionError) : r = .error (.transaction failure) → causes failure.call ∧ w.Missed p failure t

variable {r : Result α} {causes causes' : CallKind → Prop}

theorem Accounts.after (h : w.Accounts p causes v r) (hu : Admits none u)
    (unsent : ∀ kind, causes kind → ∀ x ∈ u, ¬ Sends kind x.request) : w.Accounts p causes (u ++ v) r where
  reads := h.reads.after hu
  calls failure hf :=
    have ⟨cause, missed⟩ := h.calls failure hf
    ⟨cause, missed.after (unsent _ cause)⟩

theorem Accounts.after_quiet (h : w.Accounts p causes v r) (hu : Admits none u) (quiet : Quiet u) :
    w.Accounts p causes (u ++ v) r :=
  h.after hu fun _ _ x hx sends => quiet x hx (isBroadcast_of_sends sends)

theorem Accounts.mono (h : w.Accounts p causes t r) (hc : ∀ kind, causes kind → causes' kind) :
    w.Accounts p causes' t r :=
  ⟨h.reads, fun failure hf => (h.calls failure hf).imp_left (hc _)⟩

theorem Accounts.of_failed {β : Type} {e : DeliveryError} (admits : Admits (readError? (.error e : Result β)) u)
    (failed : ∃ e', e = .read e') (hv : (done (.error e : Result α)).Runs v (done r)) :
    w.Accounts p causes (u ++ v) r := by
  obtain ⟨e, rfl⟩ := failed
  obtain ⟨rfl, ha⟩ := hv.of_done
  cases ha
  rw [List.append_nil]
  exact ⟨admits, nofun⟩

theorem Accounts.of_done {a : α} (admits : Admits none u) (hv : (done (.ok a : Result α)).Runs v (done r)) :
    w.Accounts p causes (u ++ v) r := by
  obtain ⟨rfl, ha⟩ := hv.of_done
  cases ha
  rw [List.append_nil]
  exact ⟨admits, nofun⟩

theorem Accounts.of_error {β : Type} {e : DeliveryError} (h : w.Accounts p causes u (.error e : Result β))
    (hv : (done (.error e : Result α)).Runs v (done r)) : w.Accounts p causes (u ++ v) r := by
  obtain ⟨rfl, ha⟩ := hv.of_done
  cases ha
  rw [List.append_nil]
  refine ⟨?_, fun failure hf => h.calls failure (by cases hf; rfl)⟩
  cases e <;> exact h.reads

/-- A part that hands on the failure of a call. -/
theorem Accounts.of_missing {kind : CallKind} {failure : TransactionError} {sub : Trace}
    (submitted : (w.signer.submit ⟨kind, p⟩).Runs sub (done (.error failure))) (admits : Admits none u)
    (missing : StillMissing w p kind u) (hv : (done (.error (.transaction failure) : Result α)).Runs v (done r)) :
    w.Accounts p (· = kind) (sub ++ (u ++ v)) r := by
  obtain ⟨rfl, ha⟩ := hv.of_done
  cases ha
  obtain rfl : failure.call = kind := Signer.call_of_failure submitted
  rw [List.append_nil]
  refine ⟨admits.after (admits_submit submitted), ?_⟩
  rintro _ ⟨⟩
  exact ⟨rfl, [], sub, u, rfl, List.forall_mem_nil _, submitted, missing⟩

/-! ## Execution -/

theorem accounts_settle {failure : TransactionError} {r : Result Outcome} {sub : Trace}
    (submitted : (w.signer.submit (.execute p)).Runs sub (done (.error failure)))
    (hr : (w.settle p (some failure)).Runs t (done r)) : w.Accounts p (· = .execute) (sub ++ t) r := by
  have executed : Admits none sub := admits_submit submitted
  obtain ⟨e | state, u, v, rfl, hu, hv⟩ := hr.of_bind_done
  all_goals rw [← List.append_assoc]
  · exact .of_failed ((admits_record hu).after executed) (failed_read hu) hv
  · dsimp only at hv
    split at hv
    case isTrue => exact .of_done ((admits_record hu).after executed) hv
    case isFalse status =>
      rw [List.append_assoc]
      exact .of_missing submitted (admits_record hu) (.execution (by simpa using status) (reads_state hu)) hv

theorem accounts_settle_processed {r : Result Outcome} (processed : Admits none u)
    (hr : (w.settle p none).Runs t (done r)) : w.Accounts p causes (u ++ t) r := by
  obtain ⟨e | state, u', v, rfl, hu, hv⟩ := hr.of_bind_done
  all_goals rw [← List.append_assoc]
  · exact .of_failed ((admits_record hu).after processed) (failed_read hu) hv
  · dsimp only at hv
    split at hv <;> exact .of_done ((admits_record hu).after processed) hv

theorem accounts_execute {r : Result Outcome} (hr : (w.execute p).Runs t (done r)) :
    w.Accounts p (· = .execute) t r := by
  obtain ⟨e | tx | _, u, v, rfl, hu, hv⟩ := hr.of_bind_done
  · exact accounts_settle hu hv
  · obtain ⟨_, v, v', rfl, hv, hd⟩ := hv.of_bind_done
    rw [← List.append_assoc]
    exact .of_done ((admits_host hv).after (admits_submit hu)) hd
  · exact accounts_settle_processed (admits_submit hu) hv

/-! ## Watching -/

theorem accounts_watch {left : Nat} {r : Result Outcome} (hr : (w.watch p left).Runs t (done r)) :
    w.Accounts p (· = .execute) t r := by
  -- the looks ahead of the execution are quiet, so whatever it accounts for the whole watch does
  induction left generalizing t with
  | zero => exact .of_done admits_nil hr
  | succ left ih =>
      obtain ⟨stopping, u, v, rfl, asked, hv⟩ := hr.of_bind_done
      refine Accounts.after_quiet ?_ (admits_host asked) (quiet_of_runs keeps_host asked)
      cases stopping with
      | true => exact .of_done admits_nil hv
      | false =>
          obtain ⟨e | ⟨_ | _ | _ | _ | _, votes, block⟩, u', v', rfl, hu, hv⟩ := hv.of_bind_done
          case ok.passed =>
            exact (accounts_execute hv).after_quiet (admits_record hu) (quiet_of_runs keeps_readState hu)
          case ok.inactive | ok.active =>
            obtain ⟨_, v, v', rfl, paused, hv⟩ := hv.of_bind_done
            have behind := (ih hv).after_quiet (admits_host paused) (quiet_of_runs keeps_host paused)
            exact behind.after_quiet (admits_record hu) (quiet_of_runs keeps_readState hu)
          case ok.executed | ok.cancelled => exact .of_done (admits_record hu) hv
          case error => exact .of_failed (admits_record hu) (failed_read hu) hv

/-! ## Voting -/

theorem accounts_afterFailedVote {failure : TransactionError} {r : Result (Option Outcome)} {sub : Trace}
    (submitted : (w.signer.submit (.vote p)).Runs sub (done (.error failure)))
    (hr : (w.afterFailedVote p failure).Runs t (done r)) : w.Accounts p (· = .vote) (sub ++ t) r := by
  -- each way out but one gives an answer; the one that hands the failure on is behind both reads
  have voted : Admits none sub := admits_submit submitted
  obtain ⟨e | state, u, v, rfl, hu, hv⟩ := hr.of_bind_done
  all_goals rw [← List.append_assoc]
  · exact .of_failed ((admits_record hu).after voted) (failed_read hu) hv
  · have told := (admits_record hu).after voted
    dsimp only at hv
    split at hv
    case isTrue => exact .of_done told hv
    case isFalse nonterminal =>
      split at hv
      case isTrue => exact .of_done told hv
      case isFalse unpassed =>
        have status : state.status = .inactive ∨ state.status = .active := by
          cases hs : state.status <;> simp_all [ProposalStatus.isTerminal]
        obtain ⟨e | _ | _, u', v', rfl, hu', hv⟩ := hv.of_bind_done
        all_goals rw [← List.append_assoc]
        · exact .of_failed ((admits_ballot hu').after told) (failed_read hu') hv
        · rw [List.append_assoc sub, List.append_assoc sub]
          exact .of_missing submitted ((admits_ballot hu').after (admits_record hu))
            (.vote status (reads_state hu) (reads_vote hu')) hv
        · exact .of_done ((admits_ballot hu').after told) hv

theorem accounts_vote {r : Result (Option Outcome)} (hr : (w.vote p).Runs t (done r)) :
    w.Accounts p (· = .vote) t r := by
  obtain ⟨e | tx | _, u, v, rfl, hu, hv⟩ := hr.of_bind_done
  · exact accounts_afterFailedVote hu hv
  · obtain ⟨_, v, v', rfl, hv, hd⟩ := hv.of_bind_done
    rw [← List.append_assoc]
    exact .of_done ((admits_host hv).after (admits_submit hu)) hd
  · exact .of_done (admits_submit hu) hv

theorem accounts_ensureVote {r : Result (Option Outcome)} (hr : (w.ensureVote p).Runs t (done r)) :
    w.Accounts p (· = .vote) t r := by
  obtain ⟨e | _ | _, u, v, rfl, hu, hv⟩ := hr.of_bind_done
  · exact .of_failed (admits_ballot hu) (failed_read hu) hv
  · exact (accounts_vote hv).after_quiet (admits_ballot hu) (quiet_of_runs keeps_readVote hu)
  · exact .of_done (admits_ballot hu) hv

/-! ## Messages -/

theorem accounts_advance {r : Result Outcome} (hr : (w.advance p).Runs t (done r)) :
    w.Accounts p (fun _ => True) t r := by
  obtain ⟨e | ⟨_ | _ | _ | _ | _, votes, block⟩, u, v, rfl, hu, hv⟩ := hr.of_bind_done
  case ok.inactive | ok.active =>
    refine Accounts.after_quiet ?_ (admits_record hu) (quiet_of_runs keeps_readState hu)
    obtain ⟨e | _ | outcome, u', v', rfl, voted, hv⟩ := hv.of_bind_done
    · exact ((accounts_ensureVote voted).of_error hv).mono fun _ _ => trivial
    · -- an execution that fails behind the vote is the first one sent
      refine ((accounts_watch hv).after (accounts_ensureVote voted).reads ?_).mono fun _ _ => trivial
      rintro _ rfl x hx sends
      exact unexecuted_ensureVote.runs voted x hx (executes_of_sends sends)
    · exact .of_done (accounts_ensureVote voted).reads hv
  case ok.passed =>
    have executed := (accounts_execute hv).after_quiet (admits_record hu) (quiet_of_runs keeps_readState hu)
    exact executed.mono fun _ _ => trivial
  case ok.executed | ok.cancelled => exact .of_done (admits_record hu) hv
  case error => exact .of_failed (admits_record hu) (failed_read hu) hv

theorem accounts_deliver {r : Result Outcome} (hr : (w.deliver m).Runs t (done r)) :
    ∃ p, w.Accounts p (fun _ => True) t r ∧ ∀ failure, r = .error (.transaction failure) → IsProposalOf m t p := by
  -- any proposal will do where the write ends before its own is known
  unfold deliver at hr
  cases hd : Payload.encode m.transferType m.payload with
  | error e =>
      rw [hd] at hr
      obtain ⟨rfl, ha⟩ := hr.of_done
      cases ha
      exact ⟨default, ⟨admits_nil, nofun⟩, nofun⟩
  | ok data =>
      rw [hd] at hr
      obtain ⟨e | handler, u, v, rfl, hu, hv⟩ := hr.of_bind_done
      · obtain ⟨e, rfl⟩ := failed_read hu
        cases hv.of_done.2
        exact ⟨default, .of_failed (admits_lookup hu) ⟨e, rfl⟩ hv, nofun⟩
      · dsimp only at hv
        split at hv
        · obtain ⟨rfl, ha⟩ := hv.of_done
          cases ha
          rw [List.append_nil]
          exact ⟨default, ⟨admits_lookup hu, nofun⟩, nofun⟩
        · obtain ⟨u, rfl⟩ := keeps_readHandler.done_traced hu handler rfl
          refine ⟨_, (accounts_advance hv).after_quiet (admits_lookup hu) (quiet_of_runs keeps_readHandler hu), ?_⟩
          exact fun _ _ => ⟨data, handler, hd, by simp, rfl⟩

theorem accounts_entered {r : Result Outcome} (hr : (do
    if ← Host.stopping then return .ok .interrupted
    else w.deliver m : Program WriterInterface (Result Outcome)).Runs t (done r)) :
    ∃ p, w.Accounts p (fun _ => True) t r ∧ ∀ failure, r = .error (.transaction failure) → IsProposalOf m t p := by
  obtain ⟨stopping, u, v, rfl, asked, hv⟩ := hr.of_bind_done
  cases stopping with
  | true => exact ⟨default, .of_done (admits_host asked) hv, by cases hv.of_done.2; exact nofun⟩
  | false =>
      obtain ⟨p, accounts, proposal⟩ := accounts_deliver hv
      refine ⟨p, accounts.after_quiet (admits_host asked) (quiet_of_runs keeps_host asked), fun failure hf => ?_⟩
      obtain ⟨data, handler, hd, hh, rfl⟩ := proposal failure hf
      exact ⟨data, handler, hd, List.mem_append_right u hh, rfl⟩

/-! ## Failing runs -/

/-- A node that calls every broadcast invalid ends a submission at once. -/
theorem runs_rejected (s : Signer) (call : BridgeCall) (reason : String) :
    ∃ t, (s.submit call).Runs t (done (.error (.rejected call.kind (ChainError.invalid reason).message))) := by
  obtain ⟨t, _, -, -, refused⟩ := s.runs_refused call 0 none none 0 (.invalid reason)
  exact ⟨_, Signer.runs_of_decides (Signer.runs_attempt_refused (p := {}) refused) (.inl (.inl rfl))⟩

theorem runs_readVote (w : Writer) (p : Proposal) (recorded : Bool) :
    (w.readVote p).Runs [voteRead p w.relayer (.ok recorded)] (done (.ok recorded)) := runs_read (.ask rfl .stay)

theorem runs_ensureVote_failed {failure : TransactionError} (votes : UInt8) (block : UInt64)
    (hs : (w.signer.submit (.vote p)).Runs t (done (.error failure))) :
    (w.ensureVote p).Runs (voteRead p w.relayer (.ok false) ::
      (t ++ [recordRead p (.ok ⟨.active, votes, block⟩), voteRead p w.relayer (.ok false)]))
      (done (.error (.transaction failure))) := by
  have looked : (w.afterFailedVote p failure).Runs
      [recordRead p (.ok ⟨.active, votes, block⟩), voteRead p w.relayer (.ok false)]
      (done (.error (.transaction failure))) :=
    ((w.runs_readState p _).bind _).trans ((w.runs_readVote p false).bind _)
  exact ((w.runs_readVote p false).bind _).trans ((hs.bind _).trans looked)

theorem runs_execute_unread {failure : TransactionError} (reason : String)
    (hs : (w.signer.submit (.execute p)).Runs t (done (.error failure))) :
    (w.execute p).Runs (t ++ [recordRead p (.error (.invalid reason))]) (done (.error (.read (.invalid reason)))) := by
  have first (left : Nat) : (w.readRetry.readFrom (query (.proposal p.origin p.nonce p.dataHash)) 0 left :
      Program WriterInterface (Except ChainError ProposalState)).Runs [recordRead p (.error (.invalid reason))]
      (done (.error (.invalid reason))) := by
    cases left <;> exact .ask rfl .stay
  have unread : (w.readState p).Runs [recordRead p (.error (.invalid reason))]
      (done (.error (.read (.invalid reason)))) := (first _).bind _
  exact (hs.bind _).trans (unread.bind _)

/-! ## Main statement -/

/-- A write fails with a call only after the bridge told, once the call had failed, that it is still missing. A question
to the bridge that fails is repeated, or it is the last one, and the write ends with its failure. -/
theorem reported_failure_is_real (w : Writer) (m : Message) (t : Trace) (r : Result Outcome)
    (hr : (w.write m).Runs t (done r)) :
    (∀ failure, r = .error (.transaction failure) → ∃ p before sub after, IsProposalOf m t p ∧
      t = before ++ (sub ++ (after ++ [⟨.leave, ()⟩])) ∧ (∀ x ∈ before, ¬ Sends failure.call x.request) ∧
      (w.signer.submit ⟨failure.call, p⟩).Runs sub (done (.error failure)) ∧ w.StillMissing p failure.call after) ∧
    ∀ before x after e, t = before ++ x :: after → readFailure? x = some e →
      Repeated x after ∨ after = [⟨.leave, ()⟩] ∧ r = .error (.read e) := by
  obtain ⟨_, u, v, rfl, entered, hv⟩ := hr.of_bind_done
  obtain ⟨result, v, v', rfl, decided, hv⟩ := hv.of_bind_done
  obtain ⟨_, left, v', rfl, leaves, ended⟩ := hv.of_bind_done
  obtain ⟨rfl, ha⟩ := ended.of_done
  cases ha
  obtain rfl := Runs.of_request entered
  obtain rfl := Runs.of_request leaves
  obtain ⟨p, accounts, proposal⟩ := accounts_entered decided
  constructor
  · intro failure hf
    obtain ⟨-, before, sub, after, rfl, unsent, submitted, missing⟩ := accounts.calls failure hf
    refine ⟨p, ⟨.enter, ()⟩ :: before, sub, after, ?_, by simp, ?_, submitted, missing⟩
    · obtain ⟨data, handler, hd, hh, rfl⟩ := proposal failure hf
      refine ⟨data, handler, hd, ?_, rfl⟩
      exact List.mem_append_right _ (List.mem_append_left _ hh)
    · exact List.forall_mem_cons.mpr ⟨id, unsent⟩
  · have held : Admits (readError? r) ([⟨.enter, ()⟩] ++ v) :=
      accounts.reads.after (admits_of_forall fun x hx => by cases List.mem_singleton.mp hx; rfl)
    exact fun before x after e ht => held.left (by simpa using ht)

theorem sample_failure_is_real :
    (∃ t failure p before sub after, (sample.write (Devnet.sampleMessage 1 2 7)).Runs t
      (done (.error (.transaction failure))) ∧ t = before ++ (sub ++ (after ++ [⟨.leave, ()⟩])) ∧
      (sample.signer.submit ⟨failure.call, p⟩).Runs sub (done (.error failure)) ∧
      failure.call = .vote ∧ sample.StillMissing p failure.call after) ∧
    ∃ t e r failure p before sub after, (sample.write (Devnet.sampleMessage 1 2 7)).Runs t (done r) ∧
      t = before ++ (sub ++ recordRead p (.error e) :: after) ∧
      (sample.signer.submit (.execute p)).Runs sub (done (.error failure)) ∧
      after = [⟨.leave, ()⟩] ∧ r = .error (.read e) := by
  obtain ⟨data, hd⟩ := encode_sampleMessage
  let p := Proposal.ofMessage (Devnet.sampleMessage 1 2 7) Devnet.fungibleHandler data
  constructor
  · obtain ⟨t, submitted⟩ := runs_rejected sample.signer (.vote p) "no"
    have advanced : (sample.advance p).Runs _ (done (.error (.transaction _))) :=
      ((sample.runs_readState p ⟨.active, 1, 0⟩).bind _).trans ((runs_ensureVote_failed 1 0 submitted).bind _)
    have written := runs_write_done (runs_deliver hd fungibleHandler_ne_zero advanced)
    obtain ⟨p, before, sub, after, -, ht, -, failed, missing⟩ := (reported_failure_is_real _ _ _ _ written).1 _ rfl
    exact ⟨_, _, p, before, sub, after, written, ht, failed, rfl, missing⟩
  · obtain ⟨t, submitted⟩ := runs_rejected sample.signer (.execute p) "no"
    have advanced := runs_advance_passed 1 0 (runs_execute_unread "no" submitted)
    have written := runs_write_done (runs_deliver hd fungibleHandler_ne_zero advanced)
    let before : Trace := [⟨.enter, ()⟩, ⟨.host .stopping, false⟩,
      handlerRead (Devnet.sampleMessage 1 2 7).resource (.ok Devnet.fungibleHandler),
      recordRead p (.ok ⟨.passed, 1, 0⟩)]
    obtain ⟨_, _, _, repeated, -⟩ | ⟨last, failed⟩ := (reported_failure_is_real _ _ _ _ written).2 (before ++ t)
      (recordRead p (.error (.invalid "no"))) [⟨.leave, ()⟩] _ (by simp [before, recordRead, handlerRead, p]) rfl
    · cases repeated
    · exact ⟨_, _, _, _, p, before, t, _, written, by simp [before, recordRead, handlerRead, p], submitted, last,
        failed⟩

end Writer

end BridgeRelay
