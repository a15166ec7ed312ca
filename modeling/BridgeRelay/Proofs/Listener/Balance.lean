import BridgeRelay.Proofs.Listener.Order
import BridgeRelay.Proofs.Metrics

/-!
# The balance of deposits

What a listener counts and reports adds up. Main statement: over a window that is committed, each deposit is counted once
as detected and once as routed or dropped, with one report for each message that was dropped or still awaits votes; and at
any point of a run, what was detected but neither routed nor dropped are the deposits within which scans were left.
-/

namespace BridgeRelay.Listener

open Program

variable {l : Listener} {logs : List DepositLog} {t u : Trace}

/-! ## Counts of a source -/

/-- How many deposits of a source are counted as detected. -/
def detections (d : DomainId) (us : List Metrics.Update) : Nat := (us.map (·.detections d)).sum

/-- How many messages of a source are counted as routed or dropped. -/
def settlements (d : DomainId) (us : List Metrics.Update) : Nat := (us.map (·.settlements d)).sum

section

variable {d : DomainId} {us vs : List Metrics.Update}

@[simp] theorem detections_append : detections d (us ++ vs) = detections d us + detections d vs := by
  simp [detections]

@[simp] theorem settlements_append : settlements d (us ++ vs) = settlements d us + settlements d vs := by
  simp [settlements]

end

theorem Fate.detections_counts (f : Fate) : detections l.domain (f.counts l) = 1 := by
  obtain ⟨destination, routed⟩ | ⟨reason, dropped⟩ := f.counted_cases l
  · simp [Fate.counts, routed, detections, Metrics.Update.detections]
  · simp [Fate.counts, dropped, detections, Metrics.Update.detections]

theorem Fate.settlements_counts (f : Fate) : settlements l.domain (f.counts l) = 1 := by
  obtain ⟨destination, routed⟩ | ⟨reason, dropped⟩ := f.counted_cases l
  · simp [Fate.counts, routed, settlements, Metrics.Update.settlements]
  · simp [Fate.counts, dropped, settlements, Metrics.Update.settlements]

theorem detections_fates (fates : List Fate) : detections l.domain (fates.flatMap (Fate.counts l)) = fates.length := by
  induction fates with
  | nil => rfl
  | cons f fates ih => simp [f.detections_counts, ih, Nat.add_comm]

theorem settlements_fates (fates : List Fate) :
    settlements l.domain (fates.flatMap (Fate.counts l)) = fates.length := by
  induction fates with
  | nil => rfl
  | cons f fates ih => simp [f.settlements_counts, ih, Nat.add_comm]

/-! ## Attempts -/

/-- The listener asks for the deposits of a window. -/
def isQuery (x : Exchange ListenerInterface) : Bool :=
  match x.request with
  | .chain (.deposits ..) => true
  | _ => false

theorem isQuery_iff {x : Exchange ListenerInterface} :
    isQuery x = true ↔ ∃ first last, x.request = .chain (.deposits first last) := by
  unfold isQuery
  split
  · next h => simp [h]
  · next h => simpa using h

theorem withinScan_singleton {x : Exchange ListenerInterface} (h : isQuery x = false) : WithinScan [x] := by
  refine withinScan_cons.mpr ⟨fun first last same => ?_, withinScan_nil⟩
  rw [isQuery_iff.mpr ⟨first, last, same⟩] at h
  cases h

/-- A request for deposits begins a scan. -/
theorem Step.shows_begun {s s' : Scan} {x : Exchange ListenerInterface} (step : l.Step s x s')
    (query : isQuery x = true) : ∃ logs, Shows l logs [] [] [] s' := by
  obtain ⟨first, last, h⟩ := isQuery_iff.mp query
  obtain ⟨r, answer⟩ := x
  subst h
  cases step with
  | quiet quiet => exact quiet.elim
  | unread => exact ⟨_, shows_begin⟩
  | begin => exact ⟨_, shows_begin⟩

/-- The attempts to scan a window: each lasts from one request for deposits up to the next. -/
def attempts (t : Trace) : List Trace := (t.splitOnP isQuery).tail

/-- What was counted last is a deposit that was detected. -/
def Unfinished (t : Trace) : Bool :=
  match (counts t).getLast? with
  | some (.depositDetected _) => true
  | _ => false

theorem unfinished_of_detected {d : DomainId} {us : List Metrics.Update} (h : counts t = us ++ [.depositDetected d]) :
    Unfinished t = true := by
  simp [Unfinished, h]

theorem not_unfinished_of_counted {f : Fate} {us : List Metrics.Update} (h : counts t = us ++ f.counts l) :
    Unfinished t = false := by
  obtain ⟨destination, routed⟩ | ⟨reason, dropped⟩ := f.counted_cases l
  · simp [Unfinished, h, Fate.counts, routed]
  · simp [Unfinished, h, Fate.counts, dropped]

theorem not_unfinished_of_fates {fates : List Fate} (h : counts t = fates.flatMap (Fate.counts l)) :
    Unfinished t = false := by
  obtain rfl | ⟨earlier, f, rfl⟩ := fates.eq_nil_or_concat
  · simp [Unfinished, h]
  · have last : counts t = earlier.flatMap (Fate.counts l) ++ f.counts l := by simp [h]
    exact not_unfinished_of_counted last

/-- In an attempt each deposit that was detected was also counted as routed or dropped, but for one within which the
attempt was left. -/
theorem Shows.balance {done : List DepositLog} {fates : List Fate} {s : Scan} (h : Shows l logs t done fates s) :
    detections l.domain (counts t) = settlements l.domain (counts t) + (Unfinished t).toNat := by
  have detected : detections l.domain [.depositDetected l.domain] = 1 := by
    simp [detections, Metrics.Update.detections]
  have unsettled : settlements l.domain [.depositDetected l.domain] = 0 := rfl
  have counted := h.counted
  cases hs : s.stage with
  | waiting =>
      rw [hs, Stage.counts, List.append_nil] at counted
      simp [not_unfinished_of_fates counted, counted, detections_fates, settlements_fates]
  | counted f =>
      rw [hs, Stage.counts] at counted
      simp [not_unfinished_of_counted counted, counted, detections_fates, settlements_fates, f.detections_counts,
        f.settlements_counts]
  | detected | looked | answered =>
      simp only [hs, Stage.counts] at counted
      simp [unfinished_of_detected counted, counted, detections_fates, settlements_fates, detected, unsettled]

/-- Of no deposits nothing is counted. -/
theorem Shows.counts_nil {done : List DepositLog} {fates : List Fate} {s : Scan} (h : Shows l [] t done fates s) :
    counts t = [] := by
  obtain ⟨rfl, none⟩ := List.append_eq_nil_iff.mp h.split.symm
  have stage := h.stage
  have counted := h.counted
  cases h.met
  rw [none] at stage
  cases hs : s.stage with
  | waiting => simpa [hs] using counted
  | _ =>
      rw [hs] at stage
      exact stage.elim

/-- The parts into which the requests for deposits cut a run: each shows a scan, the first one of no deposits. -/
theorem shows_parts {done : List DepositLog} {fates : List Fate} {s s' : Scan} (h : Shows l logs u done fates s)
    (along : l.scanning.Along s t s') : ∃ first rest, t.splitOnP isQuery = first :: rest ∧
      (∃ done fates s, Shows l logs (u ++ first) done fates s) ∧
      ∀ part ∈ rest, ∃ logs done fates s, Shows l logs part done fates s := by
  induction along generalizing logs u done fates with
  | nil => exact ⟨[], [], List.splitOnP_nil, ⟨done, fates, _, by simpa using h⟩, by simp⟩
  | @cons s s₁ s₂ s' x t drift step _ ih =>
      cases drift
      cases query : isQuery x with
      | true =>
          obtain ⟨logs', fresh⟩ := step.shows_begun query
          obtain ⟨first, rest, parts, shown, others⟩ := ih fresh
          exact ⟨[], first :: rest, by simp [List.splitOnP_cons_eq_if_modifyHead, query, parts],
            ⟨done, fates, _, by simpa using h⟩, List.forall_mem_cons.mpr ⟨⟨logs', shown⟩, others⟩⟩
      | false =>
          obtain ⟨done', fates', extended⟩ := h.step step (withinScan_singleton query)
          obtain ⟨first, rest, parts, shown, others⟩ := ih extended
          exact ⟨x :: first, rest, by simp [List.splitOnP_cons_eq_if_modifyHead, query, parts],
            by simpa using shown, others⟩

/-- What is counted in a run is counted in its parts. -/
theorem counts_parts (t : Trace) : counts t = (t.splitOnP isQuery).flatMap counts := by
  induction t with
  | nil => simp
  | cons x t ih =>
      rw [List.splitOnP_cons_eq_if_modifyHead]
      cases query : isQuery x with
      | true =>
          obtain ⟨first, last, h⟩ := isQuery_iff.mp query
          obtain ⟨r, answer⟩ := x
          subst h
          simp [ih]
      | false =>
          cases parts : t.splitOnP isQuery with
          | nil => exact (List.splitOnP_ne_nil _ _ parts).elim
          | cons first rest =>
              have head : counts (x :: t) = counts [x] ++ counts t := counts_append [x] t
              have part : counts (x :: first) = counts [x] ++ counts first := counts_append [x] first
              simp [head, part, ih, parts]

/-- The sum of a listener's counts over attempts, each in balance. -/
theorem balance_parts {parts : List Trace}
    (h : ∀ part ∈ parts, ∃ logs done fates s, Shows l logs part done fates s) :
    detections l.domain (parts.flatMap counts) =
      settlements l.domain (parts.flatMap counts) + parts.countP Unfinished := by
  induction parts with
  | nil => rfl
  | cons part parts ih =>
      obtain ⟨⟨logs, done, fates, s, shows⟩, rest⟩ := List.forall_mem_cons.mp h
      have counted := shows.balance
      have others := ih rest
      cases last : Unfinished part with
      | true =>
          simp only [List.flatMap_cons, detections_append, settlements_append, List.countP_cons, last, Bool.toNat_true,
            if_true] at counted ⊢
          omega
      | false =>
          simp only [List.flatMap_cons, detections_append, settlements_append, List.countP_cons, last, Bool.toNat_false,
            Bool.false_eq_true, if_false] at counted ⊢
          omega

/-- At any point of a run the deposits that were detected but neither routed nor dropped are as many as the attempts that
were left within a deposit. -/
theorem balance_of_runs {q : Program ListenerInterface (Result Unit)} (run : l.run.Runs t q) :
    detections l.domain (counts t) = settlements l.domain (counts t) + (attempts t).countP Unfinished := by
  obtain ⟨s', along⟩ := along_of_runs run
  obtain ⟨first, rest, parts, ⟨done, fates, s, shown⟩, others⟩ := shows_parts shows_begin along
  have silent : counts first = [] := shown.counts_nil
  have attempted : attempts t = rest := by rw [attempts, parts, List.tail_cons]
  rw [counts_parts, parts, List.flatMap_cons, silent, List.nil_append, attempted]
  exact balance_parts others

/-! ## The registry -/

/-- The registry after an exchange. -/
def recorded (m : Metrics) (x : Exchange ListenerInterface) : Metrics :=
  match x.request with
  | .host (.record u) => m.record u
  | _ => m

/-- The registry in which the listener of a source records. Meanwhile others may record with label values in use, but
nothing of that source. -/
def registry (d : DomainId) (used : Metrics.Family → Metrics.Labels → Prop) : World ListenerInterface Metrics where
  drift m m' := ∃ us : List Metrics.Update, m' = us.foldl Metrics.record m ∧
    ∀ u ∈ us, u.Uses used ∧ u.detections d = 0 ∧ u.settlements d = 0
  permits _ _ := True
  reply m x m' := m' = recorded m x

section

variable {d : DomainId} {used : Metrics.Family → Metrics.Labels → Prop} {m m' : Metrics}

/-- From one registry to the next the counters of a source grow by these numbers. -/
structure Grows (d : DomainId) (used : Metrics.Family → Metrics.Labels → Prop) (m m' : Metrics) (detected settled : Nat) :
    Prop where
  plain : m'.Plain used
  detected : m'.detected d = m.detected d + detected
  settled : m'.settled d = m.settled d + settled

theorem Grows.trans {m'' : Metrics} {n n' k k' : Nat} (h : Grows d used m m' n k) (h' : Grows d used m' m'' n' k') :
    Grows d used m m'' (n + n') (k + k') where
  plain := h'.plain
  detected := by rw [h'.detected, h.detected]; omega
  settled := by rw [h'.settled, h.settled]; omega

theorem grows_record {u : Metrics.Update} (apart : Metrics.Apart used) (uses : u.Uses used) (plain : m.Plain used) :
    Grows d used m (m.record u) (u.detections d) (u.settlements d) :=
  ⟨Metrics.record_plain apart uses plain, Metrics.detected_record apart uses plain,
    Metrics.settled_record apart uses plain⟩

theorem grows_drift (apart : Metrics.Apart used) (plain : m.Plain used) (drift : (registry d used).drift m m') :
    Grows d used m m' 0 0 := by
  obtain ⟨us, rfl, foreign⟩ := drift
  induction us generalizing m with
  | nil => exact ⟨plain, by simp, by simp⟩
  | cons u us ih =>
      obtain ⟨⟨uses, undetected, unsettled⟩, foreign⟩ := List.forall_mem_cons.mp foreign
      have first := grows_record (d := d) apart uses plain
      rw [undetected, unsettled] at first
      exact first.trans (ih first.plain foreign)

theorem grows_recorded {x : Exchange ListenerInterface} (apart : Metrics.Apart used)
    (uses : ∀ u, x.request = .host (.record u) → u.Uses used) (plain : m.Plain used) :
    Grows d used m (recorded m x) (detections d (counts [x])) (settlements d (counts [x])) := by
  obtain ⟨r, answer⟩ := x
  rcases r with q | r | r | _ | _
  case host =>
    cases r with
    | record u =>
        have grows := grows_record (d := d) apart (uses u rfl) plain
        cases u <;> exact grows
    | _ => exact ⟨plain, by simp [recorded, counts, detections], by simp [recorded, counts, settlements]⟩
  all_goals exact ⟨plain, by simp [recorded, detections], by simp [recorded, settlements]⟩

theorem grows_along (apart : Metrics.Apart used) (uses : ∀ x ∈ t, ∀ u, x.request = .host (.record u) → u.Uses used)
    (plain : m.Plain used) (along : (registry d used).Along m t m') :
    Grows d used m m' (detections d (counts t)) (settlements d (counts t)) := by
  induction along with
  | nil => exact ⟨plain, by simp [detections], by simp [settlements]⟩
  | @cons m₀ m₁ m₂ m' x t drift reply _ ih =>
      cases reply
      obtain ⟨here, later⟩ := List.forall_mem_cons.mp uses
      have drifted := grows_drift apart plain drift
      have first := grows_recorded (d := d) apart here drifted.plain
      have split : counts (x :: t) = counts [x] ++ counts t := counts_append [x] t
      have grows := drifted.trans (first.trans (ih later first.plain))
      simpa [split] using grows

end

/-! ## Main statement -/

/-- A report is due for a message that was dropped and for one that still awaits votes, and for no other. -/
theorem Fate.due_isSome (f : Fate) : (f.due l).isSome = true ↔
    (∃ reason, f.counted l = .messageDropped l.domain reason) ∨
      ∃ h, f.handed = some h ∧ h.answer = .ok .awaitingThreshold := by
  rcases f with ⟨d, handler, _ | ⟨destination, m, (_ | e) | (_ | _ | _ | _)⟩⟩ <;> simp [Fate.due, Fate.counted]

/-- As long as fingerprints tell apart the label values in use, the counters of a listener's source are in balance. At any
point of a run the deposits that were detected but neither routed nor dropped are as many as the attempts that were left,
or are now, within a deposit. Over the attempt that saves a checkpoint both grow by the number of deposits, each of which
is counted once as detected and once as routed or dropped, and what is reported are the messages that were dropped and
those that still await votes. -/
theorem deposits_balance {used : Metrics.Family → Metrics.Labels → Prop} {m m' : Metrics}
    {q : Program ListenerInterface (Result Unit)} (run : l.run.Runs t q) (apart : Metrics.Apart used)
    (uses : ∀ x ∈ t, ∀ u, x.request = .host (.record u) → u.Uses used) (plain : m.Plain used)
    (along : (registry l.domain used).Along m t m') :
    m'.detected l.domain - m.detected l.domain - (m'.settled l.domain - m.settled l.domain) =
      (attempts t).countP Unfinished ∧
    ∀ before first last logs scan key value answer after,
      t = before ++ ⟨.chain (.deposits first last), .ok logs⟩ ::
        (scan ++ ⟨.store (.save key value), answer⟩ :: after) → WithinScan scan →
      (∀ m₁ m₂, (registry l.domain used).Along m (before ++ [⟨.chain (.deposits first last), .ok logs⟩]) m₁ →
        (registry l.domain used).Along m₁ (scan ++ [⟨.store (.save key value), answer⟩]) m₂ →
          m₂.detected l.domain = m₁.detected l.domain + logs.length ∧
          m₂.settled l.domain = m₁.settled l.domain + logs.length) ∧
      ∃ fates, List.Forall₂ (fun log f => f.Of l log ∧ f.Closed) logs fates ∧
        handovers scan = fates.filterMap Fate.handed ∧ counts scan = fates.flatMap (Fate.counts l) ∧
        reports scan = fates.filterMap (Fate.due l) ∧
        ∀ f ∈ fates, (f.due l).isSome = true ↔ (∃ reason, f.counted l = .messageDropped l.domain reason) ∨
          ∃ h, f.handed = some h ∧ h.answer = .ok .awaitingThreshold := by
  refine ⟨?_, ?_⟩
  · have grows := grows_along apart uses plain along
    have balance := balance_of_runs run
    have detected := grows.detected
    have settled := grows.settled
    omega
  · rintro before first last logs scan key value answer after rfl within
    obtain ⟨fates, shows⟩ := shows_of_save run within
    have counted : counts scan = fates.flatMap (Fate.counts l) := by simpa using shows.counted
    have handed : handovers scan = fates.filterMap Fate.handed := by simpa using shows.handed
    refine ⟨fun m₁ m₂ earlier scanned => ?_, fates, shows.met, handed, counted, shows.reported rfl,
      fun f _ => f.due_isSome⟩
    have front := grows_along apart (fun x hx => uses x (by simp at hx ⊢; tauto)) plain earlier
    have grows := grows_along apart (fun x hx => uses x (by simp at hx ⊢; tauto)) front.plain scanned
    have length : fates.length = logs.length := shows.met.length_eq.symm
    have detected : detections l.domain (counts (scan ++ [⟨.store (.save key value), answer⟩])) = logs.length := by
      simp [counted, detections_fates, length]
    have settled : settlements l.domain (counts (scan ++ [⟨.store (.save key value), answer⟩])) = logs.length := by
      simp [counted, settlements_fates, length]
    exact ⟨detected ▸ grows.detected, settled ▸ grows.settled⟩

/-! ## Two deposits that are counted -/

theorem along_recorded {d : DomainId} {used : Metrics.Family → Metrics.Labels → Prop} (m : Metrics) (t : Trace) :
    (registry d used).Along m t (t.foldl recorded m) := by
  induction t generalizing m with
  | nil => exact .nil
  | cons x t ih => exact .cons ⟨[], rfl, by simp⟩ rfl (ih _)

/-- The label values of the counters that a scan of the sample touches. -/
def sampleLabels : List (Metrics.Family × Metrics.Labels) :=
  [(.latestBlock, ["1"]), (.depositsDetected, ["1"]), (.messagesRouted, ["1", "2"]),
   (.messagesDropped, ["1", "unknown_handler"])]

def sampleQuery : Exchange ListenerInterface := ⟨.chain (.deposits 1 3), .ok (sampleEvents.map Event.log)⟩

theorem sample_deposits_balance : ∃ m₁ m₂ : Metrics, m₁ = (sampleFront ++ [sampleQuery]).foldl recorded {} ∧
    m₂ = (sampleHandling ++ [sampleSave]).foldl recorded m₁ ∧
    m₂.detected 1 = m₁.detected 1 + 2 ∧ m₂.settled 1 = m₁.settled 1 + 2 := by
  obtain ⟨q, run⟩ := runs_sampleDelivery
  have apart : Metrics.Apart fun f labels => (f, labels) ∈ sampleLabels := by
    have all : ∀ x ∈ sampleLabels, ∀ y ∈ sampleLabels, x.1 = y.1 → x.2 = y.2 := by decide
    exact fun f a b ha hb _ => all _ ha _ hb rfl
  have uses : ∀ x ∈ sampleFront ++ sampleQuery :: (sampleDelivery ++ []), ∀ u, x.request = .host (.record u) →
      u.Uses fun f labels => (f, labels) ∈ sampleLabels := by
    have placed : ∀ u ∈ [Metrics.Update.latestBlock 1 8, .depositDetected 1, .messageRouted 1 2,
        .messageDropped 1 "unknown_handler"], ∀ place ∈ u.place, place ∈ sampleLabels := by decide
    have used : ∀ u ∈ [Metrics.Update.latestBlock 1 8, .depositDetected 1, .messageRouted 1 2,
        .messageDropped 1 "unknown_handler"], u.Uses fun f labels => (f, labels) ∈ sampleLabels :=
      fun u hu f labels h => placed u hu _ h
    obtain ⟨latest, detected, routed, dropped⟩ := by simpa using used
    simpa [sampleFront, sampleQuery, sampleDelivery, sampleHandling, dropping, sampleSave, sampleBound, sample] using
      ⟨latest, detected, dropped, detected, routed⟩
  have within : WithinScan sampleHandling := by
    simp [sampleHandling, dropping]
  obtain ⟨-, committed⟩ := deposits_balance run apart uses Metrics.plain_empty (along_recorded ..)
  obtain ⟨grows, -⟩ := committed sampleFront 1 3 (sampleEvents.map Event.log) sampleHandling (Checkpoint.key 1)
    (Checkpoint.encode 3) (.ok ()) [] (by simp [sampleDelivery, sampleSave]) within
  exact ⟨_, _, rfl, rfl, grows _ _ (along_recorded ..) (along_recorded ..)⟩

/-! ## A deposit that is counted under another source -/

/-- The deposit of a transfer to the chain 12. -/
def sampleFar : Deposit := Devnet.sampleDeposit 12 7 (Devnet.samplePayload 1000).layout

def sampleFarLog : DepositLog := sampleFar.toLog (some 3) none none

def sampleFarQuery : Exchange ListenerInterface := ⟨.chain (.deposits 1 3), .ok [sampleFarLog]⟩

def sampleFarHandling : Trace :=
  [⟨.host .stopping, false⟩, ⟨.host (.record (.depositDetected 1)), ()⟩,
   ⟨.chain (.handler Devnet.sampleResource), .ok Devnet.fungibleHandler⟩,
   ⟨.route 12 (sampleBound.message sampleFarLog sampleFar (Devnet.samplePayload 1000)), .ok .executed⟩,
   ⟨.host (.record (.messageRouted 1 12)), ()⟩, ⟨.store (.load (Checkpoint.key 1)), .ok none⟩]

theorem runs_sampleFarHandling : ∃ q, sampleBound.run.Runs
    (sampleFront ++ sampleFarQuery :: (sampleFarHandling ++ [sampleSave])) q := by
  have sent : (sampleBound.send (sampleBound.message sampleFarLog sampleFar (Devnet.samplePayload 1000))).Runs
      [⟨.route 12 (sampleBound.message sampleFarLog sampleFar (Devnet.samplePayload 1000)), .ok .executed⟩,
        ⟨.host (.record (.messageRouted 1 12)), ()⟩] (done (.ok .handled)) := .ask rfl (.ask rfl .stay)
  have read : Deposit.ofLog sampleFarLog = .ok sampleFar := Deposit.ofLog_toLog (by decide +kernel) ..
  have configured : sampleBound.handlers.find? Devnet.fungibleHandler = some .fungible := by decide
  have carried := runs_carried read configured decode_samplePaid sent
  have none : (sampleBound.handleAll []).Runs [] (done (.ok .handled)) := .stay
  exact runs_sampleWindow (runs_handleAll carried none)

/-- When another listener has routed a message from 11 to 2, one from 1 to 12 is counted there: a committed window with
a deposit adds nothing to what was routed or dropped of its source. -/
theorem sample_counted_under_another_source :
    (∃ q, sampleBound.run.Runs
      (sampleFront ++ sampleFarQuery :: (sampleFarHandling ++ [sampleSave])) q) ∧
    WithinScan sampleFarHandling ∧
    ∃ m₁ m₂ : Metrics,
      m₁ = (sampleFront ++ [sampleFarQuery]).foldl recorded
        (({} : Metrics).record (.messageRouted 11 2)) ∧
      m₂ = (sampleFarHandling ++ [sampleSave]).foldl recorded m₁ ∧
      m₂.detected 1 = m₁.detected 1 + 1 ∧ m₂.settled 1 = m₁.settled 1 := by
  have within : WithinScan sampleFarHandling := by
    simp [sampleFarHandling]
  refine ⟨runs_sampleFarHandling, within, _, _, rfl, rfl, ?_⟩
  decide +kernel

end BridgeRelay.Listener
