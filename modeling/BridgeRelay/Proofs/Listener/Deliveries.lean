import BridgeRelay.Proofs.Listener.History
import BridgeRelay.Proofs.Payload.RoundTrip
import BridgeRelay.Proofs.Program.Endings
import Mathlib.Data.List.Forall2
import Mathlib.Logic.Function.Basic

/-!
# Deliveries of a window

A listener looks at its chain while the chain and the store are in order and the writers answer whatever they like.
Main statement: the look ends, and it moves the checkpoint to the end of its window unless one of the answers holds the
window back.
-/

namespace BridgeRelay.Listener

open Function Program

/-! ## Surroundings -/

/-- What the chain of a listener answers. -/
structure Surroundings where
  head : Height
  deposits : Height → Height → List DepositLog
  handler : ResourceId → Address

/-- What a listener has done: the messages it handed over, what it saved, and what the store holds. -/
structure Journal where
  sent : List Handover := []
  saved : List (Bytes × Bytes) := []
  held : Bytes → Option Bytes

namespace Journal

def after (j : Journal) : Exchange ListenerInterface → Journal
  | ⟨.route d m, answer⟩ => { j with sent := j.sent ++ [⟨d, m, answer⟩] }
  | ⟨.store (.save key value), .ok ()⟩ =>
      { j with saved := j.saved ++ [(key, value)], held := update j.held key (some value) }
  | _ => j

def send (j : Journal) (sent : List Handover) : Journal := { j with sent := j.sent ++ sent }

@[simp] theorem send_nil (j : Journal) : j.send [] = j := by
  simp [send]

@[simp] theorem send_send (j : Journal) (sent sent' : List Handover) :
    (j.send sent).send sent' = j.send (sent ++ sent') := by
  simp [send]

end Journal

namespace Surroundings

/-- How a request is answered while nobody stops the relayer and the chain and the store are in order. A message may be
answered in any way, also as one without a route. -/
def Answers (s : Surroundings) (j : Journal) : Exchange ListenerInterface → Prop
  | ⟨.chain .head, answer⟩ => answer = .ok s.head
  | ⟨.chain (.deposits first last), answer⟩ => answer = .ok (s.deposits first last)
  | ⟨.chain (.handler r), answer⟩ => answer = .ok (s.handler r)
  | ⟨.host .stopping, answer⟩ => answer = false
  | ⟨.store (.load key), answer⟩ => answer = .ok (j.held key)
  | ⟨.store (.save ..), answer⟩ => answer = .ok ()
  | _ => True

/-- The world in which all is in order but the writers. -/
def world (s : Surroundings) : World ListenerInterface Journal where
  permits _ _ := True
  reply j x j' := s.Answers j x ∧ j' = j.after x

end Surroundings

/-! ## Answers -/

/-- The answers after which a window has to be scanned again: the relayer is stopping, or the destination could not be
read for the moment. -/
def HoldsBack : Except RouteError Outcome → Prop
  | .ok .interrupted => True
  | .error (.delivery (.read (.rpc _))) | .error (.delivery (.read (.timeout _))) => True
  | _ => False

/-- How whoever gets such an answer ends. -/
inductive Leaves {α : Type} (stopped : α) : Except RouteError Outcome → Result α → Prop where
  | interrupted : Leaves stopped (.ok .interrupted) (.ok stopped)
  | rpc (text : String) : Leaves stopped (.error (.delivery (.read (.rpc text)))) (.error (.transientNetwork text))
  | timeout (text : String) :
      Leaves stopped (.error (.delivery (.read (.timeout text)))) (.error (.transientNetwork text))

/-- All messages were handed over, each to its destination, and no answer holds them back. -/
structure Delivered (messages : List Message) (sent : List Handover) : Prop where
  messages_eq : sent.map Handover.message = messages
  addressed : ∀ h ∈ sent, h.destination = h.message.destination
  passed : ∀ h ∈ sent, ¬ HoldsBack h.answer

/-- The messages were handed over, each to its destination, up to the first answer that holds them back. -/
structure HeldBack {α : Type} (stopped : α) (messages : List Message) (sent : List Handover) (r : Result α) : Prop where
  begun : sent.map Handover.message <+: messages
  addressed : ∀ h ∈ sent, h.destination = h.message.destination
  first : ∃ earlier last, sent = earlier ++ [last] ∧ (∀ h ∈ earlier, ¬ HoldsBack h.answer) ∧
    Leaves stopped last.answer r

section Answers

variable {α β : Type} {stopped : α} {messages : List Message} {m : Message} {sent : List Handover} {r : Result α}
  {answer : Except RouteError Outcome}

theorem Leaves.holdsBack (h : Leaves stopped answer r) : HoldsBack answer := by
  cases h <;> trivial

theorem Leaves.ne_handled {r : Result Delivery} (h : Leaves .stopped answer r) : r ≠ .ok .handled := by
  cases h <;> exact nofun

theorem Leaves.map (f : α → β) (h : Leaves stopped answer r) : Leaves (f stopped) answer (r.map f) := by
  cases h <;> constructor

theorem Leaves.retryable {e : RelayError} (h : Leaves stopped answer (.error e)) :
    e.isRetryable = true ∧ e.isFatal = false := by
  cases h <;> exact ⟨rfl, rfl⟩

theorem delivered_nil : Delivered [] [] := ⟨rfl, by simp, by simp⟩

theorem Delivered.cons (rest : Delivered messages sent) (passed : ¬ HoldsBack answer) :
    Delivered (m :: messages) (⟨m.destination, m, answer⟩ :: sent) where
  messages_eq := by simp [rest.messages_eq]
  addressed := List.forall_mem_cons.mpr ⟨rfl, rest.addressed⟩
  passed := List.forall_mem_cons.mpr ⟨passed, rest.passed⟩

theorem heldBack_single (left : Leaves stopped answer r) :
    HeldBack stopped (m :: messages) [⟨m.destination, m, answer⟩] r where
  begun := by simp
  addressed := by simp
  first := ⟨[], _, rfl, by simp, left⟩

theorem HeldBack.cons (rest : HeldBack stopped messages sent r) (passed : ¬ HoldsBack answer) :
    HeldBack stopped (m :: messages) (⟨m.destination, m, answer⟩ :: sent) r where
  begun := by simpa using rest.begun
  addressed := List.forall_mem_cons.mpr ⟨rfl, rest.addressed⟩
  first := by
    obtain ⟨earlier, last, rfl, free, left⟩ := rest.first
    exact ⟨_ :: earlier, last, rfl, List.forall_mem_cons.mpr ⟨passed, free⟩, left⟩

theorem HeldBack.ne_handled {r : Result Delivery} (h : HeldBack .stopped messages sent r) : r ≠ .ok .handled := by
  obtain ⟨_, _, _, _, left⟩ := h.first
  exact left.ne_handled

theorem HeldBack.map (f : α → β) (h : HeldBack stopped messages sent r) :
    HeldBack (f stopped) messages sent (r.map f) where
  begun := h.begun
  addressed := h.addressed
  first := by
    obtain ⟨earlier, last, sent_eq, free, left⟩ := h.first
    exact ⟨earlier, last, sent_eq, free, left.map f⟩

theorem HeldBack.retryable {e : RelayError} (h : HeldBack stopped messages sent (.error e)) :
    e.isRetryable = true ∧ e.isFatal = false := by
  obtain ⟨_, _, _, _, left⟩ := h.first
  exact left.retryable

theorem HeldBack.exists_holdsBack (held : HeldBack stopped messages sent r) : ∃ h ∈ sent, HoldsBack h.answer := by
  obtain ⟨earlier, last, rfl, -, left⟩ := held.first
  exact ⟨last, by simp, left.holdsBack⟩

end Answers

/-! ## Requests -/

variable {l : Listener} {s : Surroundings} {j : Journal} {m : Message} {log : DepositLog}

section

variable {α : Type} {Q : α → Journal → Prop} {r : ListenerRequest}
  {next : ListenerInterface.Answer r → Program ListenerInterface α}

theorem ends_ask (a : r.Answer) (answered : s.Answers j ⟨r, a⟩)
    (rest : ∀ a, s.Answers j ⟨r, a⟩ → (next a).Ends s.world Q (j.after ⟨r, a⟩)) :
    (ask r next).Ends s.world Q j := by
  refine .ask_still rfl ⟨a, _, answered, rfl⟩ ?_
  rintro a _ ⟨ha, rfl⟩
  exact rest a ha

end

theorem ends_record {u : Metrics.Update} :
    (Host.record u : Program ListenerInterface Unit).Ends s.world (fun _ j' => j' = j) j :=
  ends_ask () trivial fun _ _ => .done rfl

theorem ends_report {r : Report} : (Source.report r).Ends s.world (fun _ j' => j' = j) j :=
  ends_ask () trivial fun _ _ => .done rfl

theorem ends_stopping :
    (Host.stopping : Program ListenerInterface Bool).Ends s.world (fun b j' => b = false ∧ j' = j) j :=
  ends_ask false rfl fun _ h => .done ⟨h, rfl⟩

theorem ends_insist_handler {r : ResourceId} : (l.insist (Source.query (.handler r))).Ends s.world
    (fun a j' => a = .ok (s.handler r) ∧ j' = j) j := by
  refine .iterate (.bind (ends_ask (.ok (s.handler r)) rfl ?_))
  rintro _ rfl
  exact .done (.done ⟨rfl, rfl⟩)

/-! ## Deposits -/

/-- A message was handed over, and either the listener goes on or the answer made it leave. -/
def Sent (m : Message) (j : Journal) (r : Result Delivery) (j' : Journal) : Prop :=
  ∃ answer, j' = j.send [⟨m.destination, m, answer⟩] ∧
    (r = .ok .handled ∧ ¬ HoldsBack answer ∨ Leaves Delivery.stopped answer r)

/-- What is recorded and reported of a message changes nothing. -/
theorem ends_noted {α : Type} {Q : α → Journal → Prop} {u : Metrics.Update} {r : Report} {a : α} (h : Q a j) :
    (Host.record u >>= fun _ => Source.report r >>= fun _ => (pure a : Program ListenerInterface α)).Ends
      s.world Q j := by
  refine .bind (ends_record.mono ?_)
  rintro _ _ rfl
  refine .bind (ends_report.mono ?_)
  rintro _ _ rfl
  exact .done h

theorem ends_send : (l.send m).Ends s.world (Sent m j) j := by
  refine .bind (ends_ask (.ok .executed) trivial fun answer _ => .done ?_)
  have goesOn (passed : ¬ HoldsBack answer) : Sent m j (.ok .handled) (j.send [⟨m.destination, m, answer⟩]) :=
    ⟨answer, rfl, .inl ⟨rfl, passed⟩⟩
  have leaves {r : Result Delivery} (left : Leaves .stopped answer r) :
      Sent m j r (j.send [⟨m.destination, m, answer⟩]) := ⟨answer, rfl, .inr left⟩
  rcases answer with (d | e) | outcome
  · exact ends_noted (goesOn nofun)
  · -- only a read that failed for the moment is retryable
    rcases e with e | r | (_ | _) | (text | text | _ | _)
    case read.rpc | read.timeout =>
      refine .bind (ends_report.mono ?_)
      rintro _ _ rfl
      exact .done (leaves (by constructor))
    all_goals exact ends_noted (goesOn nofun)
  · cases outcome with
    | interrupted => exact .done (leaves .interrupted)
    | awaitingThreshold => exact ends_noted (goesOn nofun)
    | executed | alreadyFinal =>
        refine .bind (ends_record.mono ?_)
        rintro _ _ rfl
        exact .done (goesOn nofun)

/-- The message of a log: it is a deposit whose handler is configured, with data as the handler emits it. -/
def Carries (l : Listener) (s : Surroundings) (log : DepositLog) (m : Message) : Prop :=
  ∃ d kind p, Deposit.ofLog log = .ok d ∧ l.handlers.find? (s.handler d.resource) = some kind ∧
    Payload.decode kind d.data = .ok p ∧ m = l.message log d p

theorem ends_handle (h : l.Carries s log m) : (l.handle log).Ends s.world (Sent m j) j := by
  obtain ⟨d, kind, p, hd, hk, hp, rfl⟩ := h
  unfold handle
  rw [hd]
  refine .bind (ends_record.mono ?_)
  rintro _ _ rfl
  refine .bind (ends_insist_handler.mono ?_)
  rintro _ _ ⟨rfl, rfl⟩
  simp only [hk, hp]
  exact ends_send

/-- The messages of a window were all delivered, or some of them up to the one at which the window is left. -/
theorem ends_handleAll {logs : List DepositLog} {messages : List Message}
    (h : List.Forall₂ (l.Carries s) logs messages) : (l.handleAll logs).Ends s.world
      (fun r j' => ∃ sent, j' = j.send sent ∧
        (r = .ok .handled ∧ Delivered messages sent ∨ HeldBack Delivery.stopped messages sent r)) j := by
  induction h generalizing j with
  | nil => exact .done ⟨[], by simp, .inl ⟨rfl, delivered_nil⟩⟩
  | cons first _ ih =>
      refine .bind (ends_stopping.mono ?_)
      rintro _ _ ⟨rfl, rfl⟩
      refine .bind ((ends_handle first).mono ?_)
      rintro r _ ⟨answer, rfl, ⟨rfl, passed⟩ | left⟩
      · -- the first message joins those that follow, whichever way they end
        refine ih.mono ?_
        rintro r _ ⟨sent, rfl, ⟨rfl, delivered⟩ | held⟩
        · exact ⟨_, Journal.send_send .., .inl ⟨rfl, delivered.cons passed⟩⟩
        · exact ⟨_, Journal.send_send .., .inr (held.cons passed)⟩
      · cases left <;> exact .done ⟨_, rfl, .inr (heldBack_single (by constructor))⟩

/-! ## Windows -/

theorem ends_get : (Checkpoint.get l.domain : Program ListenerInterface (Except StoreError Height)).Ends s.world
    (fun a j' => a = Checkpoint.decode l.domain (j.held (Checkpoint.key l.domain)) ∧ j' = j) j := by
  refine .bind (ends_ask (.ok _) rfl ?_)
  rintro _ rfl
  exact .done (.done ⟨rfl, rfl⟩)

/-- Whatever the store holds, a commit ends: the end of the window is saved, or nothing is, and then it does not lie at the
stored height or behind it. -/
theorem saves_or_refuses {last : Height} : (l.commit last).Ends s.world (fun r j' =>
    (r = .ok (.advanced last) ∧
      j' = j.after ⟨.store (.save (Checkpoint.key l.domain) (Checkpoint.encode last)), .ok ()⟩) ∨
    j' = j ∧ ∀ stored, Checkpoint.decode l.domain (j.held (Checkpoint.key l.domain)) = .ok stored → last < stored) j := by
  refine .bind (.bind (ends_get.mono ?_))
  rintro _ _ ⟨rfl, rfl⟩
  cases Checkpoint.decode l.domain _ with
  | error e => exact .done (.done (.inr ⟨rfl, nofun⟩))
  | ok stored =>
      dsimp only
      split
      · next below => exact .done (.done (.inr ⟨rfl, by rintro _ ⟨⟩; exact below⟩))
      · refine ends_ask (.ok ()) rfl ?_
        rintro _ rfl
        refine .done (.bind (ends_record.mono ?_))
        rintro _ _ rfl
        exact .done (.inl ⟨rfl, rfl⟩)

theorem ends_commit {last stored : Height}
    (held : Checkpoint.decode l.domain (j.held (Checkpoint.key l.domain)) = .ok stored) (ahead : stored ≤ last) :
    (l.commit last).Ends s.world (fun r j' => r = .ok (.advanced last) ∧
      j' = j.after ⟨.store (.save (Checkpoint.key l.domain) (Checkpoint.encode last)), .ok ()⟩) j := by
  refine saves_or_refuses.mono ?_
  rintro _ _ (saved | ⟨-, below⟩)
  · exact saved
  · exact absurd (below stored held) (UInt64.not_lt.mpr ahead)

theorem ends_poll {w : Window} {checkpoint : Height} {Q : Result Poll → Journal → Prop}
    (window : Window.next? s.head l.confirmations checkpoint l.maxRange = some w)
    (scanned : (l.handleAll (s.deposits w.first w.last)).Ends s.world (fun r j =>
      if r = .ok .handled then (l.commit w.last).Ends s.world Q j else Q (r.map fun _ => .stopped) j) j) :
    (l.poll checkpoint).Ends s.world Q j := by
  refine .bind (ends_ask (.ok s.head) rfl ?_)
  rintro _ rfl
  refine .done (.bind (ends_record.mono ?_))
  rintro _ _ rfl
  rw [window]
  refine .bind (ends_ask (.ok (s.deposits w.first w.last)) rfl ?_)
  rintro _ rfl
  refine .done (.bind (scanned.mono ?_))
  rintro (e | (_ | _)) j h
  · exact .done ((if_neg nofun).mp h)
  · exact (if_pos rfl).mp h
  · exact .done ((if_neg nofun).mp h)

/-- A look at a window ends with a commit if all its messages were delivered, and otherwise with the answer that holds
the window back. -/
theorem ends_poll_carried {w : Window} {messages : List Message} {checkpoint : Height} {Q : Result Poll → Journal → Prop}
    (window : Window.next? s.head l.confirmations checkpoint l.maxRange = some w)
    (carried : List.Forall₂ (l.Carries s) (s.deposits w.first w.last) messages)
    (committed : ∀ sent, Delivered messages sent → (l.commit w.last).Ends s.world Q (j.send sent))
    (left : ∀ sent r, HeldBack Poll.stopped messages sent r → Q r (j.send sent)) :
    (l.poll checkpoint).Ends s.world Q j := by
  refine ends_poll window ((ends_handleAll carried).mono ?_)
  rintro r _ ⟨sent, rfl, ⟨rfl, delivered⟩ | held⟩
  · exact committed sent delivered
  · rw [if_neg held.ne_handled]
    exact left sent _ (held.map fun _ => Poll.stopped)

/-! ## Main statements -/

/-- While the chain can be read, nobody stops the relayer and the store takes the end of the window, a look at the chain
ends. It saves the end of the window, and only that, if and only if no answer of a writer holds the window back. It has
then handed over the message of each log exactly once, in order. Otherwise the first answer that holds the window back is
the last answer, nothing is saved, and the look ends as stopped or with an error that passes. -/
theorem commits_unless_held_back {w : Window} {messages : List Message} {checkpoint stored : Height}
    (held : Bytes → Option Bytes) (window : Window.next? s.head l.confirmations checkpoint l.maxRange = some w)
    (carried : List.Forall₂ (l.Carries s) (s.deposits w.first w.last) messages)
    (healthy : Checkpoint.decode l.domain (held (Checkpoint.key l.domain)) = .ok stored) (ahead : stored ≤ w.last) :
    (l.poll checkpoint).Ends s.world (fun r j =>
      (j.saved = [(Checkpoint.key l.domain, Checkpoint.encode w.last)] ↔ ∀ h ∈ j.sent, ¬ HoldsBack h.answer) ∧
      ((∀ h ∈ j.sent, ¬ HoldsBack h.answer) → r = .ok (.advanced w.last) ∧ Delivered messages j.sent) ∧
      ((∃ h ∈ j.sent, HoldsBack h.answer) → j.saved = [] ∧ HeldBack Poll.stopped messages j.sent r ∧
        ∀ e, r = .error e → e.isRetryable = true ∧ e.isFatal = false)) { held } := by
  refine ends_poll_carried window carried (fun sent delivered => ?_) (fun sent r leaving => ?_)
  · -- every message passed, so the end of the window is saved
    refine (ends_commit healthy ahead).mono ?_
    rintro _ _ ⟨rfl, rfl⟩
    have passed : ∀ h ∈ sent, ¬ HoldsBack h.answer := delivered.passed
    refine ⟨⟨fun _ => passed, fun _ => rfl⟩, fun _ => ⟨rfl, delivered⟩, ?_⟩
    rintro ⟨h, hs, back⟩
    exact absurd back (passed h hs)
  · -- the last answer held the window back, and the store was not asked
    obtain ⟨h, hs, back⟩ := leaving.exists_holdsBack
    have halts : ¬ ∀ h ∈ sent, ¬ HoldsBack h.answer := fun passed => passed h hs back
    refine ⟨⟨nofun, fun passed => absurd passed halts⟩, fun passed => absurd passed halts, fun _ => ⟨rfl, leaving, ?_⟩⟩
    rintro e rfl
    exact leaving.retryable

/-- Whatever the store holds, a look at the chain ends, and hands over the message of each log exactly once and in order
unless an answer holds the window back. That is then the last answer, nothing is saved, and the look ends as stopped or
with an error that passes. -/
theorem held_back_saves_nothing {w : Window} {messages : List Message} {checkpoint : Height}
    (held : Bytes → Option Bytes) (window : Window.next? s.head l.confirmations checkpoint l.maxRange = some w)
    (carried : List.Forall₂ (l.Carries s) (s.deposits w.first w.last) messages) :
    (l.poll checkpoint).Ends s.world (fun r j =>
      ((∀ h ∈ j.sent, ¬ HoldsBack h.answer) → Delivered messages j.sent) ∧
      ((∃ h ∈ j.sent, HoldsBack h.answer) → j.saved = [] ∧ HeldBack Poll.stopped messages j.sent r ∧
        ∀ e, r = .error e → e.isRetryable = true ∧ e.isFatal = false)) { held } := by
  refine ends_poll_carried window carried (fun sent delivered => ?_) (fun sent r leaving => ?_)
  · refine saves_or_refuses.mono ?_
    rintro _ _ (⟨-, rfl⟩ | ⟨rfl, -⟩)
    all_goals exact ⟨fun _ => delivered, fun ⟨h, hs, back⟩ => absurd back (delivered.passed h hs)⟩
  · obtain ⟨h, hs, back⟩ := leaving.exists_holdsBack
    refine ⟨fun passed => absurd back (passed h hs), fun _ => ⟨rfl, leaving, ?_⟩⟩
    rintro e rfl
    exact leaving.retryable

/-! ## A destination that cannot be read -/

def sampleBound : Listener := { sample with handlers := ({} : Handlers).insert Devnet.fungibleHandler .fungible }

/-- The deposit of a transfer to another chain. -/
def samplePaid : Deposit := Devnet.sampleDeposit 2 7 (Devnet.samplePayload 1000).layout

def samplePaidLog : DepositLog := samplePaid.toLog (some 3) none none

/-- Three confirmed blocks with one deposit in them. -/
def sampleConfirmed : Surroundings := ⟨8, fun _ _ => [samplePaidLog], fun _ => Devnet.fungibleHandler⟩

theorem ofLog_samplePaidLog : Deposit.ofLog samplePaidLog = .ok samplePaid := Deposit.ofLog_toLog (by decide +kernel) ..

theorem decode_samplePaid : Payload.decode .fungible samplePaid.data = .ok (Devnet.samplePayload 1000) := by
  have fits : (Devnet.samplePayload 1000).Fits := by decide
  exact Payload.decode_layout fits

def samplePaidMessage : Message := sampleBound.message samplePaidLog samplePaid (Devnet.samplePayload 1000)

theorem carries_samplePaidLog : sampleBound.Carries sampleConfirmed samplePaidLog samplePaidMessage :=
  ⟨samplePaid, .fungible, Devnet.samplePayload 1000, ofLog_samplePaidLog, by decide, decode_samplePaid, rfl⟩

theorem runs_carried {d : Deposit} {handler : Address} {kind : TransferType} {p : Payload} {t : Trace}
    {r : Result Delivery} (hd : Deposit.ofLog log = .ok d) (hk : l.handlers.find? handler = some kind)
    (hp : Payload.decode kind d.data = .ok p) (sent : (l.send (l.message log d p)).Runs t (done r)) :
    (l.handle log).Runs (⟨.host (.record (.depositDetected l.domain)), ()⟩ ::
      ⟨.chain (.handler d.resource), .ok handler⟩ :: t) (done r) := by
  have looked : (l.insist (Source.query (.handler d.resource))).Runs [⟨.chain (.handler d.resource), .ok handler⟩]
      (done (.ok handler)) := runs_insist (.ask rfl .stay)
  unfold handle
  rw [hd]
  refine .ask rfl ((looked.bind _).trans ?_)
  simp only [done_bind, hk, hp]
  exact sent

/-- The deposit is handed over while the writer of its destination cannot reach its node. -/
def sampleUnreachable : Trace :=
  [⟨.host (.record (.depositDetected 1)), ()⟩,
   ⟨.chain (.handler Devnet.sampleResource), .ok Devnet.fungibleHandler⟩,
   ⟨.route 2 samplePaidMessage, .error (.delivery (.read (.rpc "connection refused")))⟩,
   ⟨.report ⟨2, .writer, .transientNetwork "connection refused"⟩, ()⟩]

theorem runs_sampleUnreachable : (sampleBound.handle samplePaidLog).Runs sampleUnreachable
    (done (.error (.transientNetwork "connection refused"))) :=
  runs_carried ofLog_samplePaidLog (by decide) decode_samplePaid (.ask rfl (.ask rfl .stay))

/-- A look at three confirmed blocks with one deposit in them, up to the deposit. -/
def sampleLook (log : DepositLog) : Trace :=
  [⟨.chain .head, .ok 8⟩, ⟨.host (.record (.latestBlock 1 8)), ()⟩, ⟨.chain (.deposits 1 3), .ok [log]⟩,
   ⟨.host .stopping, false⟩]

theorem runs_sampleLook {t : Trace} {e : RelayError} (failed : (sampleBound.handle log).Runs t (done (.error e))) :
    (sampleBound.poll 0).Runs (sampleLook log ++ t) (done (.error e)) := by
  apply Runs.trans
  · exact .ask rfl (.ask rfl (.ask rfl (.ask rfl .stay)))
  · exact (failed.bind _).bind _

def sampleLeft : Trace := sampleLook samplePaidLog ++ sampleUnreachable

theorem along_of_answers {t : Trace} (h : ∀ j, ∀ x ∈ t, s.Answers j x) :
    s.world.Along j t (t.foldl Journal.after j) := by
  induction t generalizing j with
  | nil => exact .nil
  | cons x t ih => exact .cons rfl ⟨h j x (by simp), rfl⟩ (ih fun j y hy => h j y (List.mem_cons_of_mem x hy))

def sampleJournal : Journal where
  sent := [⟨2, samplePaidMessage, .error (.delivery (.read (.rpc "connection refused")))⟩]
  held _ := none

theorem along_sampleLeft : sampleConfirmed.world.Along { held := fun _ => none } sampleLeft sampleJournal := by
  apply along_of_answers
  simp [sampleLeft, sampleLook, sampleUnreachable, Surroundings.Answers, sampleConfirmed]

theorem sample_commits_unless_held_back :
    (sampleBound.poll 0).Runs sampleLeft (done (.error (.transientNetwork "connection refused"))) ∧
    sampleConfirmed.world.Along { held := fun _ => none } sampleLeft sampleJournal ∧
    HeldBack Poll.stopped [samplePaidMessage] sampleJournal.sent
      (.error (.transientNetwork "connection refused")) := by
  have run := runs_sampleLook runs_sampleUnreachable
  have window : Window.next? sampleConfirmed.head sampleBound.confirmations 0 sampleBound.maxRange = some ⟨1, 3⟩ := rfl
  have ends := commits_unless_held_back (fun _ => none) window (.cons carries_samplePaidLog .nil) rfl (by decide)
  obtain ⟨-, -, left⟩ := ends.of_runs run along_sampleLeft
  exact ⟨run, along_sampleLeft, (left ⟨_, List.mem_singleton.mpr rfl, trivial⟩).2.1⟩

end BridgeRelay.Listener
