import BridgeRelay.Proofs.Listener.Halting
import Mathlib.Data.List.Forall2

/-!
# Scans

What one exchange after another does to the scan of a window. `Step` lists all that a listener may ask about the
deposits of a window, and when. A run takes such steps only, so what each of them preserves holds throughout a run.
-/

namespace BridgeRelay

open Program

/-- Says nothing about a deposit. -/
def ListenerRequest.IsQuiet : ListenerRequest → Prop
  | .chain .head | .store (.load _) | .host (.record (.latestBlock ..)) | .host (.record (.checkpoint ..)) => True
  | .host r => r.IsQuiet
  | _ => False

namespace Listener

variable {l : Listener} {log : DepositLog} {logs : List DepositLog}

/-! ## What becomes of a deposit -/

/-- What became of a deposit: the handler that the bridge told, and the handover, if that handler is configured. -/
structure Fate where
  deposit : Deposit
  handler : Address
  handed : Option Handover

namespace Fate

/-- The fate is one that the log can meet. -/
inductive Of (l : Listener) (log : DepositLog) : Fate → Prop where
  | unknown {d : Deposit} {handler : Address} (read : Deposit.ofLog log = .ok d)
      (unconfigured : l.handlers.find? handler = none) : Of l log ⟨d, handler, none⟩
  | handed {d : Deposit} {handler : Address} {kind : TransferType} {p : Payload} (read : Deposit.ofLog log = .ok d)
      (configured : l.handlers.find? handler = some kind) (decoded : Payload.decode kind d.data = .ok p)
      (answer : Except RouteError Outcome) :
      Of l log ⟨d, handler, some ⟨d.destination, l.message log d p, answer⟩⟩

/-- The message need not be handed over again: nothing interrupted its writer, and a failure is one that remains. -/
def Closed (f : Fate) : Prop :=
  match f.handed with
  | none | some ⟨_, _, .error (.noWriter _)⟩ => True
  | some ⟨_, _, .ok outcome⟩ => outcome ≠ .interrupted
  | some ⟨_, _, .error (.delivery e)⟩ => (RelayError.ofDelivery e).isRetryable = false

/-- As what the deposit is counted. -/
def counted (l : Listener) (f : Fate) : Metrics.Update :=
  match f.handed with
  | none => .messageDropped l.domain "unknown_handler"
  | some ⟨_, m, .ok _⟩ => .messageRouted l.domain m.destination
  | some ⟨_, _, .error (.noWriter _)⟩ => .messageDropped l.domain "no_route"
  | some ⟨_, _, .error (.delivery e)⟩ => .messageDropped l.domain (RelayError.ofDelivery e).kind

/-- The report of a message that was dropped, or that still awaits the votes of others. -/
def due (l : Listener) (f : Fate) : Option Report :=
  match f.handed with
  | none => some ⟨l.domain, .listener, unknownHandler f.handler f.deposit.resource⟩
  | some ⟨_, m, .ok .awaitingThreshold⟩ =>
      some ⟨m.destination, .writer, .unfinishedProposal s!"{m.id.text} voted, still awaiting threshold"⟩
  | some ⟨_, _, .ok _⟩ => none
  | some ⟨_, m, .error (.noWriter _)⟩ =>
      some ⟨l.domain, .listener, .configuration (RouteError.noWriter m.destination).message⟩
  | some ⟨_, m, .error (.delivery e)⟩ => some ⟨m.destination, .writer, .ofDelivery e⟩

theorem counted_cases (l : Listener) (f : Fate) :
    (∃ destination, f.counted l = .messageRouted l.domain destination) ∨
      ∃ reason, f.counted l = .messageDropped l.domain reason := by
  rcases f with ⟨d, handler, _ | ⟨destination, m, (_ | e) | outcome⟩⟩
  · exact .inr ⟨_, rfl⟩
  · exact .inr ⟨_, rfl⟩
  · exact .inr ⟨_, rfl⟩
  · exact .inl ⟨_, rfl⟩

end Fate

/-! ## Steps -/

/-- How far a log is handled. -/
inductive Stage where
  /-- not begun -/
  | waiting
  | detected (d : Deposit)
  | looked (d : Deposit) (handler : Address)
  /-- handed over and answered -/
  | answered (f : Fate)
  /-- counted, with a report due -/
  | counted (f : Fate)

/-- No report is due. -/
def Stage.IsFree : Stage → Prop
  | .counted _ => False
  | _ => True

/-- A scan of a window. -/
structure Scan where
  /-- the logs that are not handled yet; the stage is that of the first -/
  rest : List DepositLog := []
  stage : Stage := .waiting
  /-- nothing more is done about the logs -/
  left : Bool := true

/-- What an exchange of the listener does to its scan. -/
inductive Step (l : Listener) : Scan → Exchange ListenerInterface → Scan → Prop where
  | quiet {s : Scan} {x : Exchange ListenerInterface} (quiet : x.request.IsQuiet) : Step l s x s
  | unread {s : Scan} {first last : Height} {e : ChainError} : Step l s ⟨.chain (.deposits first last), .error e⟩ {}
  | begin {s : Scan} {first last : Height} {logs : List DepositLog} :
      Step l s ⟨.chain (.deposits first last), .ok logs⟩ ⟨logs, .waiting, false⟩
  | detect {log : DepositLog} {logs : List DepositLog} {d : Deposit} (read : Deposit.ofLog log = .ok d) :
      Step l ⟨log :: logs, .waiting, false⟩ ⟨.host (.record (.depositDetected l.domain)), ()⟩
        ⟨log :: logs, .detected d, false⟩
  | miss {logs : List DepositLog} {d : Deposit} {e : ChainError} :
      Step l ⟨logs, .detected d, false⟩ ⟨.chain (.handler d.resource), .error e⟩ ⟨logs, .detected d, false⟩
  | look {logs : List DepositLog} {d : Deposit} {handler : Address} :
      Step l ⟨logs, .detected d, false⟩ ⟨.chain (.handler d.resource), .ok handler⟩ ⟨logs, .looked d handler, false⟩
  | hand {log : DepositLog} {logs : List DepositLog} {d : Deposit} {handler : Address} {kind : TransferType}
      {p : Payload} {m : Message} (configured : l.handlers.find? handler = some kind)
      (decoded : Payload.decode kind d.data = .ok p) (message : m = l.message log d p)
      (answer : Except RouteError Outcome) :
      Step l ⟨log :: logs, .looked d handler, false⟩ ⟨.route d.destination m, answer⟩
        ⟨log :: logs, .answered ⟨d, handler, some ⟨d.destination, m, answer⟩⟩, false⟩
  | drop {logs : List DepositLog} {d : Deposit} {handler : Address} {u : Metrics.Update}
      (unconfigured : l.handlers.find? handler = none) (counted : u = Fate.counted l ⟨d, handler, none⟩) :
      Step l ⟨logs, .looked d handler, false⟩ ⟨.host (.record u), ()⟩ ⟨logs, .counted ⟨d, handler, none⟩, false⟩
  | pass {log : DepositLog} {logs : List DepositLog} {f : Fate} {u : Metrics.Update} (closed : f.Closed)
      (counted : u = f.counted l) (nothing : f.due l = none) :
      Step l ⟨log :: logs, .answered f, false⟩ ⟨.host (.record u), ()⟩ ⟨logs, .waiting, false⟩
  | count {logs : List DepositLog} {f : Fate} {u : Metrics.Update} {r : Report} (closed : f.Closed)
      (counted : u = f.counted l) (due : f.due l = some r) :
      Step l ⟨logs, .answered f, false⟩ ⟨.host (.record u), ()⟩ ⟨logs, .counted f, false⟩
  | report {log : DepositLog} {logs : List DepositLog} {f : Fate} {r : Report} (due : f.due l = some r) :
      Step l ⟨log :: logs, .counted f, false⟩ ⟨.report r, ()⟩ ⟨logs, .waiting, false⟩
  | leave {s : Scan} {r : Report} (free : s.stage.IsFree) : Step l s ⟨.report r, ()⟩ { s with left := true }
  | save {key value : Bytes} {answer : Except StoreError Unit} :
      Step l ⟨[], .waiting, false⟩ ⟨.store (.save key value), answer⟩ {}

/-- The world in which a listener takes such steps only. -/
def scanning (l : Listener) : World ListenerInterface Scan where
  permits s r := ∀ a, ∃ s', l.Step s ⟨r, a⟩ s'
  reply := l.Step

/-! ## Parts -/

section

variable {α : Type} {s s' : Scan} {Q : α → Scan → Prop}

theorem Fate.not_isQuiet_counted (f : Fate) : ¬ (ListenerRequest.host (.record (f.counted l))).IsQuiet := by
  obtain ⟨destination, routed⟩ | ⟨reason, dropped⟩ := f.counted_cases l
  · rw [routed]
    exact id
  · rw [dropped]
    exact id

theorem Step.eq_of_quiet {x : Exchange ListenerInterface} (h : l.Step s x s') (quiet : x.request.IsQuiet) : s' = s := by
  cases h with
  | quiet => rfl
  | drop _ counted | pass _ counted | count _ counted =>
      subst counted
      exact (Fate.not_isQuiet_counted _ quiet).elim
  | _ => exact quiet.elim

theorem keeps_step {r : ListenerRequest} {next : ListenerInterface.Answer r → Program ListenerInterface α}
    (step : ∀ a, ∃ s', l.Step s ⟨r, a⟩ s')
    (rest : ∀ a s', l.Step s ⟨r, a⟩ s' → (next a).Keeps l.scanning Q s') : (ask r next).Keeps l.scanning Q s := by
  rintro _ rfl
  exact ⟨step, rest⟩

theorem keeps_quiet {r : ListenerRequest} {next : ListenerInterface.Answer r → Program ListenerInterface α}
    (quiet : r.IsQuiet) (rest : ∀ a, (next a).Keeps l.scanning Q s) : (ask r next).Keeps l.scanning Q s := by
  refine keeps_step (fun a => ⟨s, .quiet quiet⟩) fun a s' h => ?_
  cases h.eq_of_quiet quiet
  exact rest a

/-- Whoever asks only for what says nothing about a deposit leaves the scan as it is. -/
theorem keeps_of_asks_quiet {p : Program ListenerInterface α} (h : p.Asks ListenerRequest.IsQuiet) :
    p.Keeps l.scanning (fun _ s' => s' = s) s := by
  refine h.keeps rfl (fun _ _ hs hd => hd ▸ hs) (fun s r hr _ a => ⟨s, .quiet hr⟩) fun _ x _ hx hs hr => ?_
  rw [hr.eq_of_quiet hx, hs]

theorem keeps_host {r : HostRequest} (quiet : r.IsQuiet) :
    (Hosted.host r : Program ListenerInterface r.Answer).Keeps l.scanning (fun _ s' => s' = s) s := by
  apply keeps_of_asks_quiet
  cases r with
  | record => exact quiet.elim
  | _ => exact ⟨trivial, fun _ => trivial⟩

/-- What holds when a log was handled, or when it was left. -/
def Went (logs : List DepositLog) : Result Delivery → Scan → Prop
  | .ok .handled, s => s = ⟨logs, .waiting, false⟩
  | _, s => s.stage.IsFree

theorem keeps_counted {f : Fate} {u : Metrics.Update} {r : Report} (due : f.due l = some r)
    (step : l.Step s ⟨.host (.record u), ()⟩ ⟨log :: logs, .counted f, false⟩)
    (only : ∀ s', l.Step s ⟨.host (.record u), ()⟩ s' → s' = ⟨log :: logs, .counted f, false⟩) :
    (Host.record u >>= fun _ => Source.report r >>= fun _ => (pure (.ok .handled) : Program ListenerInterface _)).Keeps
      l.scanning (Went logs) s := by
  refine keeps_do.mpr (keeps_step (fun _ => ⟨_, step⟩) fun _ s' h => ?_)
  cases only s' h
  refine keeps_do.mpr (keeps_step (fun _ => ⟨_, .report due⟩) fun _ s' h => ?_)
  cases h with
  | quiet quiet => exact quiet.elim
  | report => exact rfl
  | leave free => exact free.elim

theorem keeps_answered {f : Fate} {r : Report} (closed : f.Closed) (due : f.due l = some r) :
    (Host.record (f.counted l) >>= fun _ => Source.report r >>= fun _ =>
      (pure (.ok .handled) : Program ListenerInterface _)).Keeps
      l.scanning (Went logs) ⟨log :: logs, .answered f, false⟩ := by
  refine keeps_counted due (.count closed rfl due) fun s' h => ?_
  cases h with
  | quiet quiet => exact (f.not_isQuiet_counted quiet).elim
  | pass _ _ nothing => cases due.symm.trans nothing
  | count => rfl

theorem keeps_passed {f : Fate} (closed : f.Closed) (nothing : f.due l = none) :
    (Host.record (f.counted l) >>= fun _ => (pure (.ok .handled) : Program ListenerInterface _)).Keeps
      l.scanning (Went logs) ⟨log :: logs, .answered f, false⟩ := by
  refine keeps_do.mpr (keeps_step (fun _ => ⟨_, .pass closed rfl nothing⟩) fun _ s' h => ?_)
  cases h with
  | quiet quiet => exact (f.not_isQuiet_counted quiet).elim
  | pass => exact rfl
  | count _ _ due => cases due.symm.trans nothing

theorem keeps_send_scan {d : Deposit} {handler : Address} {kind : TransferType} {p : Payload}
    (configured : l.handlers.find? handler = some kind) (decoded : Payload.decode kind d.data = .ok p) :
    (l.send (l.message log d p)).Keeps l.scanning (Went logs) ⟨log :: logs, .looked d handler, false⟩ := by
  refine keeps_do.mpr (keeps_step (fun answer => ⟨_, .hand configured decoded rfl answer⟩) fun answer s' h => ?_)
  have handed : s' = ⟨log :: logs, .answered ⟨d, handler, some ⟨d.destination, l.message log d p, answer⟩⟩, false⟩ := by
    cases h with
    | quiet quiet => exact quiet.elim
    | hand => rfl
  subst handed
  rcases answer with (destination | e) | outcome
  · exact keeps_answered (f := ⟨d, handler, some ⟨_, _, .error (.noWriter destination)⟩⟩) trivial rfl
  · refine keeps_done.mpr ?_
    dsimp only
    split
    · refine keeps_do.mpr (keeps_step (fun _ => ⟨_, .leave trivial⟩) fun _ s' h => ?_)
      cases h with
      | quiet quiet => exact quiet.elim
      | leave free => exact free
    · next lasting =>
        exact keeps_answered (f := ⟨d, handler, some ⟨_, _, .error (.delivery e)⟩⟩)
          (eq_false_of_ne_true lasting) rfl
  · cases outcome with
    | interrupted => exact trivial
    | awaitingThreshold => exact keeps_answered (f := ⟨d, handler, some ⟨_, _, .ok .awaitingThreshold⟩⟩) nofun rfl
    | executed => exact keeps_passed (f := ⟨d, handler, some ⟨_, _, .ok .executed⟩⟩) nofun rfl
    | alreadyFinal status =>
        exact keeps_passed (f := ⟨d, handler, some ⟨_, _, .ok (.alreadyFinal status)⟩⟩) nofun rfl

theorem keeps_insist_scan {d : Deposit} :
    (l.insist (Source.query (.handler d.resource))).Keeps l.scanning (fun
      | .ok handler, s => s = ⟨logs, .looked d handler, false⟩
      | .error _, s => s = ⟨logs, .detected d, false⟩) ⟨logs, .detected d, false⟩ := by
  have host : ∀ s (r : HostRequest), r.IsQuiet → s = ⟨logs, .detected d, false⟩ →
      (Hosted.host r : Program ListenerInterface r.Answer).Keeps l.scanning
        (fun _ s => s = ⟨logs, .detected d, false⟩) s := by
    rintro _ r quiet rfl
    exact keeps_host quiet
  refine keeps_insist_in host rfl ?_ fun e s hs => hs
  rintro _ rfl
  refine keeps_step (fun answer => ?_) fun answer s' h => ?_
  · cases answer with
    | error e => exact ⟨_, .miss⟩
    | ok handler => exact ⟨_, .look⟩
  · cases h with
    | quiet quiet => exact quiet.elim
    | miss => exact rfl
    | look => exact rfl

theorem keeps_handle_scan : (l.handle log).Keeps l.scanning (Went logs) ⟨log :: logs, .waiting, false⟩ := by
  unfold handle
  cases read : Deposit.ofLog log with
  | error f => exact trivial
  | ok d =>
      refine keeps_do.mpr (keeps_step (fun _ => ⟨_, .detect read⟩) fun _ s' h => ?_)
      cases h with
      | quiet quiet => exact quiet.elim
      | detect read' =>
          cases read.symm.trans read'
          refine keeps_done.mpr (keeps_do.mpr (keeps_insist_scan.mono ?_))
          rintro (e | handler) _ rfl
          · exact trivial
          · cases configured : l.handlers.find? handler with
            | none =>
                simp only [configured]
                refine keeps_counted (f := ⟨d, handler, none⟩) rfl (.drop configured rfl) fun s' h => ?_
                cases h with
                | quiet quiet => exact quiet.elim
                | drop => rfl
            | some kind =>
                cases decoded : Payload.decode kind d.data with
                | error f =>
                    simp only [configured, decoded]
                    exact trivial
                | ok p =>
                    simp only [configured, decoded]
                    exact keeps_send_scan configured decoded

theorem keeps_handleAll_scan : (l.handleAll logs).Keeps l.scanning (Went []) ⟨logs, .waiting, false⟩ := by
  induction logs with
  | nil => exact rfl
  | cons log logs ih =>
      refine keeps_do.mpr (keeps_quiet trivial fun stopping => ?_)
      cases stopping with
      | true => exact trivial
      | false =>
          refine keeps_do.mpr (keeps_handle_scan.mono ?_)
          rintro (e | _ | _) s went
          · exact went
          · cases went
            exact ih
          · exact went

/-! ## The whole -/

theorem keeps_commit_scan {last : Height} :
    (l.commit last).Keeps l.scanning (fun _ s => s.stage.IsFree) ⟨[], .waiting, false⟩ := by
  have get : (Checkpoint.get l.domain : Program ListenerInterface _).Asks ListenerRequest.IsQuiet :=
    ⟨trivial, fun loaded => by cases loaded <;> trivial⟩
  refine keeps_do.mpr (keeps_do.mpr ((keeps_of_asks_quiet get).mono ?_))
  rintro (e | stored) _ rfl
  · exact trivial
  · dsimp only
    split
    · exact trivial
    · refine keeps_step (fun _ => ⟨_, .save⟩) fun answer s' h => ?_
      cases h with
      | quiet quiet => exact quiet.elim
      | save =>
          cases answer with
          | error e => exact trivial
          | ok => exact keeps_do.mpr (keeps_quiet trivial fun _ => trivial)

theorem keeps_scan_scan {w : Window} : (l.scan w).Keeps l.scanning (fun _ s => s.stage.IsFree) s := by
  refine keeps_do.mpr (keeps_step (fun answer => ?_) fun answer s' h => keeps_done.mpr ?_)
  · cases answer with
    | error e => exact ⟨_, .unread⟩
    | ok logs => exact ⟨_, .begin⟩
  · cases h with
    | quiet quiet => exact quiet.elim
    | unread => exact trivial
    | begin =>
        refine keeps_do.mpr (keeps_handleAll_scan.mono ?_)
        rintro (e | _ | _) s went
        · exact went
        · cases went
          exact keeps_commit_scan
        · exact went

theorem keeps_poll_scan {checkpoint : Height} (free : s.stage.IsFree) :
    (l.poll checkpoint).Keeps l.scanning (fun _ s => s.stage.IsFree) s := by
  refine keeps_do.mpr (keeps_quiet trivial fun head => keeps_done.mpr ?_)
  rcases head with e | head
  · exact free
  · refine keeps_do.mpr (keeps_quiet trivial fun _ => keeps_done.mpr ?_)
    split
    · exact free
    · exact keeps_scan_scan

theorem rounds_scanning : Rounds l l.scanning (fun _ s => s.stage.IsFree) (fun _ s => s.stage.IsFree) (fun _ _ => True) where
  host c s r quiet free := (keeps_host quiet).mono fun _ _ h => h ▸ free
  stop c s free := keeps_quiet trivial fun stopping => by
    cases stopping with
    | true => trivial
    | false => exact free
  poll c s free := by
    refine (keeps_poll_scan free).mono ?_
    rintro (e | (_ | _ | _)) s free
    · simp [Looked, free]
    all_goals exact free
  halt e s free := keeps_do.mpr (keeps_step (fun _ => ⟨_, .leave free⟩) fun _ _ _ => trivial)

theorem keeps_run_scanning (free : s.stage.IsFree) : l.run.Keeps l.scanning (fun _ _ => True) s := by
  have start : l.start.Asks ListenerRequest.IsQuiet := by
    refine asks_start (fun r quiet => ?_) trivial fun _ => trivial
    cases r with
    | record => exact quiet.elim
    | _ => trivial
  refine rounds_scanning.keeps_run ((keeps_of_asks_quiet start).mono ?_)
  rintro (e | c) _ rfl
  · exact free
  · exact free

/-- A run takes steps of a scan only. -/
theorem along_of_runs {t : Trace} {q : Program ListenerInterface (Result Unit)} (run : l.run.Runs t q) :
    ∃ s, l.scanning.Along {} t s :=
  (keeps_run_scanning (s := {}) trivial).exists_along run (fun _ => rfl) fun _ _ a permitted => permitted a

end

/-! ## What a trace shows of a scan -/

/-- The handlers that the bridge told, in order, each with the resource. -/
def lookups (t : Trace) : List (ResourceId × Address) := t.filterMap fun
  | ⟨.chain (.handler r), .ok handler⟩ => some (r, handler)
  | _ => none

/-- What was counted of deposits, in order. -/
def counts (t : Trace) : List Metrics.Update := t.filterMap fun
  | ⟨.host (.record (.depositDetected d)), _⟩ => some (.depositDetected d)
  | ⟨.host (.record (.messageRouted d destination)), _⟩ => some (.messageRouted d destination)
  | ⟨.host (.record (.messageDropped d reason)), _⟩ => some (.messageDropped d reason)
  | _ => none

section

variable {t : Trace}

@[simp] theorem lookups_told (r : ResourceId) (handler : Address) :
    lookups (⟨.chain (.handler r), .ok handler⟩ :: t) = (r, handler) :: lookups t := rfl

@[simp] theorem lookups_untold (r : ResourceId) (e : ChainError) :
    lookups (⟨.chain (.handler r), .error e⟩ :: t) = lookups t := rfl

@[simp] theorem lookups_host (r : HostRequest) (a : r.Answer) : lookups (⟨.host r, a⟩ :: t) = lookups t := rfl

@[simp] theorem lookups_store (r : StoreRequest) (a : r.Answer) : lookups (⟨.store r, a⟩ :: t) = lookups t := rfl

@[simp] theorem lookups_route (d : DomainId) (m : Message) (answer : Except RouteError Outcome) :
    lookups (⟨.route d m, answer⟩ :: t) = lookups t := rfl

@[simp] theorem lookups_report (r : Report) (a : Unit) : lookups (⟨.report r, a⟩ :: t) = lookups t := rfl

@[simp] theorem lookups_nil : lookups [] = [] := rfl

@[simp] theorem counts_detected (d : DomainId) (a : Unit) :
    counts (⟨.host (.record (.depositDetected d)), a⟩ :: t) = .depositDetected d :: counts t := rfl

@[simp] theorem counts_chain (q : SourceQuery) (a : q.Answer) : counts (⟨.chain q, a⟩ :: t) = counts t := rfl

@[simp] theorem counts_store (r : StoreRequest) (a : r.Answer) : counts (⟨.store r, a⟩ :: t) = counts t := rfl

@[simp] theorem counts_route (d : DomainId) (m : Message) (answer : Except RouteError Outcome) :
    counts (⟨.route d m, answer⟩ :: t) = counts t := rfl

@[simp] theorem counts_report (r : Report) (a : Unit) : counts (⟨.report r, a⟩ :: t) = counts t := rfl

@[simp] theorem counts_nil : counts [] = [] := rfl

@[simp] theorem counts_counted (f : Fate) (a : Unit) :
    counts (⟨.host (.record (f.counted l)), a⟩ :: t) = f.counted l :: counts t := by
  obtain ⟨destination, routed⟩ | ⟨reason, dropped⟩ := f.counted_cases l
  · rw [routed]
    rfl
  · rw [dropped]
    rfl

@[simp] theorem reports_route (d : DomainId) (m : Message) (answer : Except RouteError Outcome) :
    reports (⟨.route d m, answer⟩ :: t) = reports t := rfl

end

@[simp] theorem lookups_append (t u : Trace) : lookups (t ++ u) = lookups t ++ lookups u := by
  simp [lookups]

@[simp] theorem counts_append (t u : Trace) : counts (t ++ u) = counts t ++ counts u := by
  simp [counts]

/-- What is counted of a deposit from its detection on. -/
def Fate.counts (l : Listener) (f : Fate) : List Metrics.Update := [.depositDetected l.domain, f.counted l]

namespace Stage

/-- The stage is one that the first of the logs can be in. -/
@[simp] def At (l : Listener) : Stage → List DepositLog → Prop
  | .waiting, _ => True
  | _, [] => False
  | .detected d, log :: _ | .looked d _, log :: _ => Deposit.ofLog log = .ok d
  | .answered f, log :: _ => f.Of l log
  | .counted f, log :: _ => f.Of l log ∧ f.Closed

@[simp] def handed : Stage → List Handover
  | .answered f | .counted f => f.handed.toList
  | _ => []

@[simp] def lookups : Stage → List (ResourceId × Address)
  | .looked d handler => [(d.resource, handler)]
  | .answered f | .counted f => [(f.deposit.resource, f.handler)]
  | _ => []

@[simp] def counts (l : Listener) : Stage → List Metrics.Update
  | .waiting => []
  | .counted f => f.counts l
  | _ => [.depositDetected l.domain]

end Stage

/-- What a trace shows of a scan: some logs of the window met their fates, and the next one is in the stage of the
scan. Unless the scan was left, nothing but these fates was reported. -/
structure Shows (l : Listener) (logs : List DepositLog) (t : Trace) (done : List DepositLog) (fates : List Fate)
    (s : Scan) : Prop where
  split : logs = done ++ s.rest
  met : List.Forall₂ (fun log f => f.Of l log ∧ f.Closed) done fates
  stage : s.stage.At l s.rest
  handed : handovers t = fates.filterMap Fate.handed ++ s.stage.handed
  looked : lookups t = fates.map (fun f => (f.deposit.resource, f.handler)) ++ s.stage.lookups
  counted : counts t = fates.flatMap (Fate.counts l) ++ s.stage.counts l
  reported : s.left = false → reports t = fates.filterMap (Fate.due l)

theorem shows_begin {left : Bool} : Shows l logs [] [] [] ⟨logs, .waiting, left⟩ where
  split := rfl
  met := .nil
  stage := trivial
  handed := rfl
  looked := rfl
  counted := rfl
  reported _ := rfl

section

variable {t : Trace} {done : List DepositLog} {fates : List Fate} {s s' : Scan} {x : Exchange ListenerInterface}

theorem handovers_of_quiet (quiet : x.request.IsQuiet) :
    handovers [x] = [] ∧ lookups [x] = [] ∧ counts [x] = [] ∧ reports [x] = [] := by
  obtain ⟨r, answer⟩ := x
  rcases r with (_ | _ | _) | (_ | _ | _ | _ | u | _) | (_ | _) | _ | _
  case host.record =>
    cases u with
    | latestBlock | checkpoint => exact ⟨rfl, rfl, rfl, rfl⟩
    | _ => exact quiet.elim
  all_goals first
    | exact quiet.elim
    | exact ⟨rfl, rfl, rfl, rfl⟩

/-- Each step within a scan adds to what is shown of it. -/
theorem Shows.step (h : Shows l logs t done fates s) (step : l.Step s x s') (within : WithinScan [x]) :
    ∃ done fates, Shows l logs (t ++ [x]) done fates s' := by
  obtain ⟨split, met, stage, handed, looked, counted, reported⟩ := h
  cases step with
  | quiet quiet =>
      obtain ⟨hh, hl, hc, hr⟩ := handovers_of_quiet quiet
      exact ⟨done, fates, split, met, stage, by simp [hh, handed], by simp [hl, looked], by simp [hc, counted],
        fun free => by simp [hr, reported free]⟩
  | unread => exact (withinScan_cons.mp within).1 _ _ rfl |>.elim
  | begin => exact (withinScan_cons.mp within).1 _ _ rfl |>.elim
  | detect read =>
      exact ⟨done, fates, split, met, read, by simp [handed], by simp [looked], by simp [counted],
        fun free => by simp [reported free]⟩
  | miss =>
      exact ⟨done, fates, split, met, stage, by simp [handed], by simp [looked], by simp [counted],
        fun free => by simp [reported free]⟩
  | @look logs =>
      refine ⟨done, fates, split, met, ?_, by simp [handed], by simp [looked], by simp [counted],
        fun free => by simp [reported free]⟩
      cases logs <;> exact stage
  | hand configured decoded message answer =>
      subst message
      exact ⟨done, fates, split, met, .handed stage configured decoded answer, by simp [handed], by simp [looked],
        by simp [counted], fun free => by simp [reported free]⟩
  | @drop logs d handler u unconfigured hu =>
      subst hu
      refine ⟨done, fates, split, met, ?_, by simp [handed], by simp [looked], by simp [counted, Fate.counts],
        fun free => by simp [reported free]⟩
      cases logs with
      | nil => exact stage
      | cons => exact ⟨.unknown stage unconfigured, trivial⟩
  | @pass log logs f u closed hu nothing =>
      subst hu
      exact ⟨done ++ [log], fates ++ [f], by simp [split], List.rel_append met (.cons ⟨stage, closed⟩ .nil), trivial,
        by cases hf : f.handed <;> simp [handed, hf], by simp [looked], by simp [counted, Fate.counts],
        fun free => by simp [reported free, nothing]⟩
  | @count logs f u r closed hu due =>
      subst hu
      refine ⟨done, fates, split, met, ?_, by simp [handed], by simp [looked], by simp [counted, Fate.counts],
        fun free => by simp [reported free]⟩
      cases logs with
      | nil => exact stage
      | cons => exact ⟨stage, closed⟩
  | @report log logs f r due =>
      exact ⟨done ++ [log], fates ++ [f], by simp [split], List.rel_append met (.cons stage .nil), trivial,
        by cases hf : f.handed <;> simp [handed, hf], by simp [looked], by simp [counted],
        fun free => by simp [reported free, due]⟩
  | leave free =>
      exact ⟨done, fates, split, met, stage, by simp [handed], by simp [looked], by simp [counted], nofun⟩
  | save =>
      exact ⟨done, fates, split, met, stage, by simp [handed], by simp [looked], by simp [counted], nofun⟩

theorem Shows.along {u : Trace} (h : Shows l logs t done fates s) (along : l.scanning.Along s u s')
    (within : WithinScan u) : ∃ done fates, Shows l logs (t ++ u) done fates s' := by
  induction along generalizing t done fates with
  | nil => exact ⟨done, fates, by simpa using h⟩
  | @cons s s₁ s₂ s' x u drift step _ ih =>
      cases drift
      obtain ⟨first, rest⟩ := withinScan_cons.mp within
      obtain ⟨done, fates, h⟩ := h.step step (withinScan_cons.mpr ⟨first, withinScan_nil⟩)
      simpa using ih h rest

/-- When all logs are handled, none is left until deposits are asked for again. -/
theorem rest_nil_of_along {u : Trace} (empty : s.rest = []) (along : l.scanning.Along s u s') (within : WithinScan u) :
    s'.rest = [] := by
  induction along with
  | nil => exact empty
  | @cons s s₁ s₂ s' x u drift step _ ih =>
      cases drift
      obtain ⟨first, rest⟩ := withinScan_cons.mp within
      refine ih ?_ rest
      cases step with
      | unread | begin => exact (first _ _ rfl).elim
      | quiet | miss | look | drop | count | leave | save => exact empty
      | detect | hand | pass | report => cases empty

end

/-! ## Runs -/

section

variable {before scan after : Trace} {first last : Height} {key value : Bytes} {q : Program ListenerInterface (Result Unit)}

/-- From the deposits of a window on, a run shows how far they were handled: all of them, once a checkpoint was saved. -/
theorem shows_of_runs
    (run : l.run.Runs (before ++ ⟨.chain (.deposits first last), .ok logs⟩ :: (scan ++ after)) q)
    (within : WithinScan scan) : ∃ done fates s, Shows l logs scan done fates s ∧
      (∀ key value answer, ⟨.store (.save key value), answer⟩ ∈ scan → s.rest = []) ∧ ∃ s', l.scanning.Along s after s' := by
  obtain ⟨s₂, along⟩ := along_of_runs run
  obtain ⟨s₀, -, along⟩ := along.of_append
  obtain _ | ⟨drift, step, along⟩ := along
  obtain ⟨s₁, scanned, later⟩ := along.of_append
  cases step with
  | quiet quiet => exact quiet.elim
  | begin =>
      obtain ⟨done, fates, shows⟩ := shows_begin.along scanned within
      refine ⟨done, fates, s₁, shows, fun key value answer saved => ?_, s₂, later⟩
      obtain ⟨u, v, rfl⟩ := List.append_of_mem saved
      obtain ⟨s, -, scanned⟩ := scanned.of_append
      obtain _ | ⟨drift, step, scanned⟩ := scanned
      refine rest_nil_of_along ?_ scanned (withinScan_cons.mp (withinScan_append.mp within).2).2
      cases step with
      | quiet quiet => exact quiet.elim
      | save => rfl

/-- When a checkpoint is saved, all deposits of the window met their fates. -/
theorem shows_of_save {answer : Except StoreError Unit}
    (run : l.run.Runs (before ++ ⟨.chain (.deposits first last), .ok logs⟩ ::
      (scan ++ ⟨.store (.save key value), answer⟩ :: after)) q)
    (within : WithinScan scan) : ∃ fates, Shows l logs scan logs fates ⟨[], .waiting, false⟩ := by
  obtain ⟨done, fates, s, shows, -, s', along⟩ := shows_of_runs run within
  obtain _ | ⟨drift, step, -⟩ := along
  cases drift
  cases step with
  | quiet quiet => exact quiet.elim
  | save =>
      have all : logs = done := by simpa using shows.split
      exact ⟨fates, all ▸ shows⟩

end

end Listener

end BridgeRelay
