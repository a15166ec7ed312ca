import BridgeRelay.Proofs.Deposit
import BridgeRelay.Proofs.Listener.Deliveries
import BridgeRelay.Proofs.Listener.Scans
import BridgeRelay.Proofs.Payload.Grammar

/-!
# The order of deliveries

During one scan the deposits of a window reach their destinations in order and unaltered. Main statement: what is handed
over are the messages of the first so many deposits of the window, one for each deposit whose handler is configured, with
every field as it was deposited; and of all of them, once a checkpoint is saved.
-/

namespace BridgeRelay.Listener

open Program

/-- A deposit and where it stands on its chain. -/
structure Event where
  deposit : Deposit
  blockNumber : Option Height := none
  txHash : Option Hash := none
  logIndex : Option UInt64 := none

namespace Event

def log (e : Event) : DepositLog := e.deposit.toLog e.blockNumber e.txHash e.logIndex

/-- The message of an event on a source chain, for what its data says to the handler's kind. -/
def message (e : Event) (source : DomainId) (kind : TransferType) (p : Payload) : Message where
  source
  destination := e.deposit.destination
  nonce := e.deposit.nonce
  resource := e.deposit.resource
  transferType := kind
  payload := p
  metadata :=
    { blockNumber := e.blockNumber.getD 0
      txHash := e.txHash
      logIndex := e.logIndex
      handlerResponse := e.deposit.handlerResponse }

end Event

/-- The handovers of events whose handlers the bridge told: none for a handler that is not configured, and otherwise the
message of the event, to the destination that the event names. -/
inductive Delivers (l : Listener) : List (Event × Address) → List Handover → Prop where
  | nil : Delivers l [] []
  | unknown {e : Event} {handler : Address} {events : List (Event × Address)} {sent : List Handover}
      (unconfigured : l.handlers.find? handler = none) (rest : Delivers l events sent) :
      Delivers l ((e, handler) :: events) sent
  | handed {e : Event} {handler : Address} {kind : TransferType} {p : Payload} {events : List (Event × Address)}
      {sent : List Handover} (configured : l.handlers.find? handler = some kind)
      (decoded : Payload.decode kind e.deposit.data = .ok p) (answer : Except RouteError Outcome)
      (rest : Delivers l events sent) :
      Delivers l ((e, handler) :: events) (⟨e.deposit.destination, e.message l.domain kind p, answer⟩ :: sent)

variable {l : Listener} {e : Event} {f : Fate} {reached reached' : List (Event × Address)} {sent sent' : List Handover}

theorem Delivers.append (h : Delivers l reached sent) (h' : Delivers l reached' sent') :
    Delivers l (reached ++ reached') (sent ++ sent') := by
  induction h with
  | nil => exact h'
  | unknown unconfigured _ ih => exact .unknown unconfigured ih
  | handed configured decoded answer _ ih => exact .handed configured decoded answer ih

theorem message_log {kind : TransferType} {p : Payload} (decoded : Payload.decode kind e.deposit.data = .ok p) :
    l.message e.log e.deposit p = e.message l.domain kind p := by
  cases (Payload.decode_eq_ok.mp decoded).1
  rfl

theorem ofLog_log (fits : e.deposit.Fits) : Deposit.ofLog e.log = .ok e.deposit := Deposit.ofLog_toLog fits ..

/-- A fate of an event is a delivery of it. -/
theorem Fate.Of.delivers (h : f.Of l e.log) (fits : e.deposit.Fits) :
    f.deposit = e.deposit ∧ Delivers l [(e, f.handler)] f.handed.toList := by
  have whole := ofLog_log fits
  cases h with
  | unknown read unconfigured =>
      cases whole.symm.trans read
      exact ⟨rfl, .unknown unconfigured .nil⟩
  | handed read configured decoded answer =>
      cases whole.symm.trans read
      rw [message_log decoded]
      exact ⟨rfl, .handed configured decoded answer .nil⟩

theorem delivers_fates {events : List Event} {fates : List Fate}
    (met : List.Forall₂ (fun log f => f.Of l log ∧ f.Closed) (events.map Event.log) fates)
    (fits : ∀ e ∈ events, e.deposit.Fits) :
    ∃ reached : List (Event × Address), reached.map Prod.fst = events ∧
      reached.map (fun r => (r.1.deposit.resource, r.2)) = fates.map (fun f => (f.deposit.resource, f.handler)) ∧
      Delivers l reached (fates.filterMap Fate.handed) := by
  induction events generalizing fates with
  | nil =>
      cases met
      exact ⟨[], rfl, rfl, .nil⟩
  | cons e events ih =>
      obtain _ | ⟨⟨first, -⟩, met⟩ := met
      rename_i f fates
      obtain ⟨here, later⟩ := List.forall_mem_cons.mp fits
      obtain ⟨reached, rfl, looked, delivered⟩ := ih met later
      obtain ⟨same, single⟩ := first.delivers here
      refine ⟨(e, f.handler) :: reached, rfl, by simp [looked, same], ?_⟩
      have both := single.append delivered
      rcases f with ⟨d, handler, _ | h⟩ <;> exact both

/-- Of the event that is being handled, at most one message was handed over. -/
theorem delivers_stage {s : Stage} {rest : List Event} (stage : s.At l (rest.map Event.log))
    (fits : ∀ e ∈ rest, e.deposit.Fits) : ∃ reached : List (Event × Address), reached.map Prod.fst <+: rest ∧
      reached.map (fun r => (r.1.deposit.resource, r.2)) <+: s.lookups ∧ Delivers l reached s.handed := by
  have none (h : s.handed = []) : ∃ reached : List (Event × Address), reached.map Prod.fst <+: rest ∧
      reached.map (fun r => (r.1.deposit.resource, r.2)) <+: s.lookups ∧ Delivers l reached s.handed :=
    ⟨[], List.nil_prefix, List.nil_prefix, h ▸ .nil⟩
  have one {f : Fate} {e : Event} {later : List Event} (h : f.Of l e.log) (fits : e.deposit.Fits) :
      ∃ reached : List (Event × Address), reached.map Prod.fst <+: e :: later ∧
        reached.map (fun r => (r.1.deposit.resource, r.2)) <+: [(f.deposit.resource, f.handler)] ∧
        Delivers l reached f.handed.toList := by
    obtain ⟨same, single⟩ := h.delivers fits
    exact ⟨[(e, f.handler)], by simp, by simp [same], single⟩
  cases rest with
  | nil =>
      cases s with
      | waiting => exact none rfl
      | _ => exact stage.elim
  | cons e later =>
      have here := fits e (by simp)
      cases s with
      | waiting | detected | looked => exact none rfl
      | answered f => exact one stage here
      | counted f => exact one stage.1 here

/-! ## Main statement -/

/-- From the deposits of a window on, as long as no deposits are asked for again, what a listener handed over are the
messages of the first so many deposits, in order, without those whose handler is not configured. The handlers are those
that the bridge told. Once a checkpoint is saved, these are the messages of all deposits of the window. -/
theorem delivers_in_order {before scan after : Trace} {first last : Height} {events : List Event}
    {q : Program ListenerInterface (Result Unit)}
    (run : l.run.Runs (before ++ ⟨.chain (.deposits first last), .ok (events.map Event.log)⟩ :: (scan ++ after)) q)
    (within : WithinScan scan) (fits : ∀ e ∈ events, e.deposit.Fits) :
    ∃ reached : List (Event × Address), reached.map Prod.fst <+: events ∧
      reached.map (fun r => (r.1.deposit.resource, r.2)) <+: lookups scan ∧ Delivers l reached (handovers scan) ∧
      ((∃ key value answer, ⟨.store (.save key value), answer⟩ ∈ scan) → reached.map Prod.fst = events) := by
  obtain ⟨done, fates, s, ⟨split, met, stage, handed, looked, -, -⟩, saved, -⟩ := shows_of_runs run within
  obtain ⟨begun, rest, rfl, rfl, left⟩ := List.map_eq_append_iff.mp split
  rw [← left] at stage
  obtain ⟨reached, rfl, told, delivered⟩ := delivers_fates met fun e he => fits e (List.mem_append_left _ he)
  obtain ⟨reached', further, told', delivered'⟩ := delivers_stage stage fun e he => fits e (List.mem_append_right _ he)
  refine ⟨reached ++ reached', ?_, ?_, ?_, ?_⟩
  · rw [List.map_append]
    exact (List.prefix_append_right_inj _).mpr further
  · rw [List.map_append, looked, told]
    exact (List.prefix_append_right_inj _).mpr told'
  · rw [handed]
    exact delivered.append delivered'
  · rintro ⟨key, value, answer, h⟩
    have none : rest = [] := by simpa [saved key value answer h] using left
    subst none
    simp [List.prefix_nil.mp further]

/-! ## A window with two deposits -/

theorem runs_handleAll {log : DepositLog} {logs : List DepositLog} {t u : Trace}
    {q : Program ListenerInterface (Result Delivery)} (first : (l.handle log).Runs t (done (.ok .handled)))
    (rest : (l.handleAll logs).Runs u q) : (l.handleAll (log :: logs)).Runs (⟨.host .stopping, false⟩ :: (t ++ u)) q :=
  .ask rfl ((first.bind _).trans rest)

/-- Two deposits, the first of which the bridge leaves to a handler that is not configured. -/
def sampleEvents : List Event := [{ deposit := Devnet.sampleDeposit 3 6 [] }, ⟨samplePaid, some 3, none, none⟩]

def sampleHandling : Trace :=
  ⟨.host .stopping, false⟩ :: (sampleBound.dropping Devnet.sampleResource Address.zero ++
    ⟨.host .stopping, false⟩ :: ⟨.host (.record (.depositDetected 1)), ()⟩ ::
    ⟨.chain (.handler Devnet.sampleResource), .ok Devnet.fungibleHandler⟩ ::
    [⟨.route 2 samplePaidMessage, .ok .executed⟩, ⟨.host (.record (.messageRouted 1 2)), ()⟩]) ++
  [⟨.store (.load (Checkpoint.key 1)), .ok none⟩]

def sampleDelivery : Trace := sampleHandling ++ [sampleSave]

def sampleFront : Trace :=
  [⟨.store (.load (Checkpoint.key 1)), .ok none⟩, ⟨.host .stopping, false⟩, ⟨.chain .head, .ok 8⟩,
   ⟨.host (.record (.latestBlock 1 8)), ()⟩]

/-- A window is scanned from the beginning, its deposits are handled, and the checkpoint is saved. -/
theorem runs_sampleWindow {logs : List DepositLog} {t : Trace}
    (handled : (sampleBound.handleAll logs).Runs t (done (.ok .handled))) : ∃ q, sampleBound.run.Runs
      (sampleFront ++ ⟨.chain (.deposits 1 3), .ok logs⟩ ::
        (t ++ [⟨.store (.load (Checkpoint.key 1)), .ok none⟩, sampleSave])) q := by
  apply Exists.intro
  apply Runs.trans
  · exact .ask rfl (.silent rfl (.ask rfl (.ask rfl (.ask rfl .stay))))
  · apply Runs.ask rfl
    apply Runs.trans
    · exact ((handled.bind _).bind _).bind _
    · exact .ask rfl (.ask rfl .stay)

theorem runs_sampleDelivery : ∃ q, sampleBound.run.Runs
    (sampleFront ++ ⟨.chain (.deposits 1 3), .ok (sampleEvents.map Event.log)⟩ :: (sampleDelivery ++ [])) q := by
  have read := ofLog_log (e := { deposit := Devnet.sampleDeposit 3 6 [] }) (by decide +kernel)
  have unconfigured : sampleBound.handlers.find? Address.zero = none := by decide
  have dropped := runs_dropping read unconfigured
  have sent : (sampleBound.send samplePaidMessage).Runs
      [⟨.route 2 samplePaidMessage, .ok .executed⟩, ⟨.host (.record (.messageRouted 1 2)), ()⟩]
      (done (.ok .handled)) := .ask rfl (.ask rfl .stay)
  have configured : sampleBound.handlers.find? Devnet.fungibleHandler = some .fungible := by decide
  have carried := runs_carried ofLog_samplePaidLog configured decode_samplePaid sent
  have none : (sampleBound.handleAll []).Runs [] (done (.ok .handled)) := .stay
  obtain ⟨q, run⟩ := runs_sampleWindow (runs_handleAll dropped (runs_handleAll carried none))
  exact ⟨q, by rw [List.append_nil]; exact run⟩

theorem sample_delivers_in_order :
    ∃ reached : List (Event × Address), reached.map Prod.fst = sampleEvents ∧
      sampleBound.Delivers reached [⟨2, samplePaidMessage, .ok .executed⟩] := by
  obtain ⟨q, run⟩ := runs_sampleDelivery
  have within : WithinScan sampleDelivery := by
    simp [sampleDelivery, sampleHandling, dropping, sampleSave]
  have fits : ∀ e ∈ sampleEvents, e.deposit.Fits := by decide +kernel
  obtain ⟨reached, -, -, delivered, all⟩ := delivers_in_order run within fits
  have sent : handovers sampleDelivery = [⟨2, samplePaidMessage, .ok .executed⟩] := by
    simp [sampleDelivery, sampleHandling, dropping, sampleSave]
  have saved : sampleSave ∈ sampleDelivery := by simp [sampleDelivery]
  exact ⟨reached, all ⟨_, _, _, saved⟩, sent ▸ delivered⟩

end BridgeRelay.Listener
