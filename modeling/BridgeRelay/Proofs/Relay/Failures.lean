import BridgeRelay.Proofs.Listener.Scans
import BridgeRelay.Proofs.Relay.Accounts
import BridgeRelay.Proofs.Relay.Readings
import BridgeRelay.Proofs.Writer.Counts

/-!
# Failures of a relay

The supervisor hears of each listener that ends and counts each report, in whatever order these reach it. Main statement:
`no_failure_is_lost`.
-/

namespace BridgeRelay

open Program

/-! ## Listeners -/

/-- Counts no error. -/
def ListenerRequest.CountsNoError : ListenerRequest → Prop
  | .host r => r.CountsNoError
  | _ => True

/-- A listener counts no error: it reports errors. -/
theorem Listener.countsNoError_of_runs {l : Listener} {t : Trace} {q : Program ListenerInterface (Result Unit)}
    (run : l.run.Runs t q) : ∀ x ∈ t, x.request.CountsNoError := by
  intro x hx
  obtain ⟨before, after, rfl⟩ := List.append_of_mem hx
  obtain ⟨_, along⟩ := along_of_runs run
  obtain ⟨s, -, _ | ⟨-, step, -⟩⟩ := along.of_append
  have fate (f : Fate) : (ListenerRequest.host (.record (f.counted l))).CountsNoError := by
    obtain ⟨destination, routed⟩ | ⟨reason, dropped⟩ := f.counted_cases l
    · rw [routed]
      trivial
    · rw [dropped]
      trivial
  cases step with
  | quiet quiet =>
      rcases x with ⟨_ | (_ | _ | _ | _ | (_ | _ | _ | _ | _ | _ | _ | _ | _ | _) | _) | _ | _ | _, _⟩
      all_goals first | exact quiet.elim | trivial
  | drop _ counted | pass _ counted | count _ counted => exact counted ▸ fate _
  | _ => trivial

/-- What a listener asks until it has ended: it counts no error, and tells the supervisor nothing but reports. -/
def RelayRequest.IsWorking : RelayRequest → Prop
  | .exit .. | .notice | .leftover => False
  | .host r => r.CountsNoError
  | _ => True

/-- What the supervisor asks. -/
def RelayRequest.IsSupervising : RelayRequest → Prop
  | .host (.record _) | .notice | .leftover => True
  | _ => False

namespace Relay

variable {r : Relay} {P : Crew r} {i : Fin r.chains.length} {x : Exchange RelayInterface}
  {t : List (Exchange RelayInterface)} {labels : Metrics.Labels}

theorem asks_placed {k : Nat} {r : WriterRequest} (h : r.CountsNoError) : (Writer.relayed k r).Asks RelayRequest.IsWorking := by
  cases r with
  | host r => exact ⟨h, fun _ => trivial⟩
  | _ => exact ⟨trivial, fun _ => trivial⟩

theorem asks_route {routes : Routes (Nat × Writer)} {d : DomainId} {m : Message} :
    (route routes d m).Asks RelayRequest.IsWorking := by
  cases found : routes.find? d with
  | none =>
      simp only [route, found]
      trivial
  | some entry =>
      rw [route_of_some found]
      exact Asks.bind (Writer.countsNoError_write.translate fun _ => asks_placed) fun _ => trivial

theorem asks_carry {q : ListenerRequest} (h : q.CountsNoError) : (r.carry i q).Asks RelayRequest.IsWorking := by
  cases q with
  | host r => exact ⟨h, fun _ => trivial⟩
  | route d m => exact asks_route
  | _ => exact ⟨trivial, fun _ => trivial⟩

/-- Until it has ended a listener asks only what is part of its work. -/
theorem Reading.working {calls : List (Call ListenerInterface (Entry r))} {rest gone : List (Entry r)}
    (h : Reading P i calls rest gone) :
    ∀ x ∈ (calls.flatMap Call.entries ++ rest).map Entry.exchange, x.request.IsWorking := by
  have called : ∀ x ∈ (calls.flatMap Call.entries).map Entry.exchange, x.request.IsWorking := by
    intro x hx
    obtain ⟨e, he, rfl⟩ := List.mem_map.mp hx
    obtain ⟨c, hc, he⟩ := List.mem_flatMap.mp he
    obtain ⟨p, run⟩ := h.run
    have asked := Listener.countsNoError_of_runs run _ (List.mem_map_of_mem hc)
    exact (asks_carry asked).runs (h.carried c hc) _ (List.mem_map_of_mem he)
  have unfinished : ∀ x ∈ rest.map Entry.exchange, x.request.IsWorking := by
    cases h with
    | ended => exact List.forall_mem_nil _
    | running reads =>
        obtain ⟨-, -, p, -, stands⟩ := reads
        generalize rest.map Entry.exchange = asked at stands
        cases stands with
        | between => exact List.forall_mem_nil _
        | within _ run unfinished =>
            obtain rfl | ⟨d, m, rfl⟩ := unfinished_route run unfinished
            · exact List.forall_mem_nil _
            · exact asks_route.runs run
  rw [List.map_append]
  exact List.forall_mem_append.mpr ⟨called, unfinished⟩

/-- The errors in the series of label values that are counted. -/
def tally (labels : Metrics.Labels) (t : List (Exchange RelayInterface)) : Nat :=
  ((t.filterMap counted?).map (·.errors labels)).sum

theorem tally_append {u : List (Exchange RelayInterface)} : tally labels (t ++ u) = tally labels t + tally labels u := by
  simp [tally, List.filterMap_append]

theorem tally_flatMap {ι : Type} {f : ι → List (Exchange RelayInterface)} {is : List ι}
    (h : ∀ i ∈ is, tally labels (f i) = 0) : tally labels (is.flatMap f) = 0 := by
  induction is with
  | nil => rfl
  | cons i is ih =>
      obtain ⟨first, later⟩ := List.forall_mem_cons.mp h
      rw [List.flatMap_cons, tally_append, first, ih later]

theorem tally_perm {u : List (Exchange RelayInterface)} (h : t.Perm u) : tally labels t = tally labels u :=
  ((h.filterMap _).map _).sum_eq

theorem tally_of_working (h : ∀ x ∈ t, x.request.IsWorking) : tally labels t = 0 := by
  refine List.sum_eq_zero fun n hn => ?_
  obtain ⟨u, hu, rfl⟩ := List.mem_map.mp hn
  obtain ⟨⟨request, answer⟩, hx, counted⟩ := List.mem_filterMap.mp hu
  have working := h _ hx
  rcases request with (_ | _ | _ | _ | _ | _) | _ | _ | _ | _ | _ | _ | _ | _ | _ | _ | _
  case host.record =>
    cases counted
    cases u with
    | error => exact working.elim
    | _ => rfl
  all_goals cases counted

/-- A listener at work neither hears nor says what concerns the supervisor. -/
theorem unseen_of_working (h : x.request.IsWorking) : received? x = none ∧ exited? x = none ∧ joined? x = none := by
  obtain ⟨request, answer⟩ := x
  cases request with
  | exit | notice | leftover => exact h.elim
  | _ => exact ⟨rfl, rfl, rfl⟩

/-- A listener has run to its end with a result, and has said so last. -/
structure Ended (P : Crew r) (i : Fin r.chains.length) (result : Listener.Result Unit) : Prop where
  program : P.programs (some i) = done []
  part : ∃ t, P.state.part (some i) = t ++ [⟨.exit (r.listener i).domain result, ()⟩] ∧
    (Listener.place i (route r.routes) (r.listener i).run).Runs t (done result)

/-- What the supervisor sees of a listener: nothing until it has ended, and then its result. -/
theorem listener_part (reached : Reaches (opening r) P) (i : Fin r.chains.length) :
    (P.state.part (some i)).filterMap received? = [] ∧ (P.state.part (some i)).filterMap joined? = [] ∧
      (∀ labels, tally labels (P.state.part (some i)) = 0) ∧
      ((P.state.part (some i)).filterMap exited? = [] ∨ ∃ result, Ended P i result ∧
        (P.state.part (some i)).filterMap exited? = [((r.listener i).domain, result)]) := by
  obtain ⟨calls, rest, gone, reading⟩ := exists_reading reached i
  have own := congrArg (List.map Entry.exchange) reading.own_eq
  rw [List.map_append] at own
  have working := reading.working
  have unseen {β : Type} {f : Exchange RelayInterface → Option β} (h : ∀ x, x.request.IsWorking → f x = none) :
      ((calls.flatMap Call.entries ++ rest).map Entry.exchange).filterMap f = [] :=
    List.filterMap_eq_nil_iff.mpr fun x hx => h x (working x hx)
  have received := unseen fun _ h => (unseen_of_working h).1
  have exited := unseen fun _ h => (unseen_of_working h).2.1
  have joined := unseen fun _ h => (unseen_of_working h).2.2
  unfold House.part
  rw [own]
  simp only [List.filterMap_append, received, joined, exited, tally_append, tally_of_working working, List.nil_append]
  cases reading with
  | running => simp [tally]
  | @ended result e history carried run exit program =>
      have part : P.state.part (some i) =
          (calls.flatMap Call.entries).map Entry.exchange ++ [⟨.exit (r.listener i).domain result, ()⟩] := by
        rw [House.part, history, List.map_append, List.map_singleton, exit]
      have finished : Ended P i result := ⟨program, _, part, run.translate carried⟩
      simp only [List.map_singleton, exit]
      exact ⟨rfl, rfl, fun _ => rfl, .inr ⟨result, finished, rfl⟩⟩

/-! ## The supervisor -/

/-- A listener that has halted, if the result is an error. -/
def halted? : DomainId × Except RelayError Unit → Option Halted
  | (d, .error e) => some ⟨d, e⟩
  | (_, .ok ()) => none

/-- What is counted for a report. -/
def reported (report : Report) : Metrics.Update := .error report.domain report.error.kind

/-- Each listener of whose failure the supervisor heard is among those that halted, and each report it got is counted. -/
structure Attended (halted : List Halted) (t : List (Exchange RelayInterface)) : Prop where
  halted : (t.filterMap joined?).filterMap halted? = halted
  counted (labels : Metrics.Labels) :
    tally labels t = ((t.filterMap received?).map fun report => (reported report).errors labels).sum

variable {halted : List Halted}

theorem Attended.report {report : Report} (h : Attended halted t) (received : received? x = some report)
    (joined : joined? x = none) (uncounted : counted? x = none) :
    Attended halted (t ++ [x] ++ [⟨.host (.record (reported report)), ()⟩]) where
  halted := by
    rw [filterMap_snoc, filterMap_snoc, joined]
    simpa [joined?] using h.halted
  counted labels := by
    have before := h.counted labels
    simp only [tally, filterMap_snoc, received, uncounted] at before ⊢
    simp [counted?, received?, before]

/-- An exchange that tells of no report and no failure changes nothing. -/
theorem Attended.quiet (h : Attended halted t) (received : received? x = none)
    (joined : (joined? x).bind halted? = none) (uncounted : ∀ u, counted? x = some u → ∀ labels, u.errors labels = 0) :
    Attended halted (t ++ [x]) where
  halted := by
    rw [filterMap_snoc, List.filterMap_append, h.halted]
    cases heard : joined? x with
    | none => simp
    | some result => simpa [heard] using joined
  counted labels := by
    rw [filterMap_snoc, received, tally_append, h.counted labels]
    have alone : tally labels [x] = 0 := by
      rw [tally, ← List.nil_append [x], filterMap_snoc]
      cases counted : counted? x with
      | none => rfl
      | some u => simp [uncounted u counted labels]
    simp [alone]

theorem Attended.silent (h : Attended halted t) (received : received? x = none)
    (joined : (joined? x).bind halted? = none) (uncounted : counted? x = none) : Attended halted (t ++ [x]) :=
  h.quiet received joined fun u counted => by cases uncounted.symm.trans counted

/-- The supervisor was told that no listener is left. -/
def Deserted (t : List (Exchange RelayInterface)) : Prop := ∃ a b, t = a ++ ⟨.notice, .allExited⟩ :: b

theorem Deserted.append {u : List (Exchange RelayInterface)} (h : Deserted t) : Deserted (t ++ u) := by
  obtain ⟨a, b, rfl⟩ := h
  exact ⟨a, b ++ u, by simp⟩

theorem keeps_attend (h : Attended [] t) :
    attend.Keeps (.traced fun _ _ => True) (fun halted t => Attended halted t ∧ Deserted t) t := by
  refine Keeps.iterate (fun halted t => Attended halted t) h fun halted t h => ?_
  refine keeps_do.mpr (keeps_ask_traced.mpr ⟨trivial, fun notice => ?_⟩)
  rcases notice with report | ⟨d, e | ⟨⟩⟩ | _ | _
  · exact keeps_do.mpr (keeps_ask_traced.mpr ⟨trivial, fun _ => h.report rfl rfl rfl⟩)
  · refine ⟨?_, fun labels => ?_⟩
    · rw [filterMap_snoc, List.filterMap_append, h.halted]
      rfl
    · rw [filterMap_snoc, tally_append, h.counted]
      simp [tally, received?, show counted? ⟨.notice, .exited d (.error e)⟩ = none from rfl]
  · exact h.silent rfl rfl rfl
  · exact h.silent rfl rfl rfl
  · exact ⟨h.silent rfl rfl rfl, t, [], rfl⟩

theorem keeps_countLeftovers (h : Attended halted t) (deserted : Deserted t) :
    countLeftovers.Keeps (.traced fun _ _ => True)
      (fun _ t => Attended halted t ∧ ∃ u, Deserted u ∧ t = u ++ [⟨.leftover, none⟩]) t := by
  refine Keeps.iterate (fun _ t => Attended halted t ∧ Deserted t) ⟨h, deserted⟩ ?_
  rintro _ t ⟨h, deserted⟩
  refine keeps_do.mpr (keeps_ask_traced.mpr ⟨trivial, fun left => ?_⟩)
  cases left with
  | some report =>
      refine keeps_do.mpr (keeps_ask_traced.mpr ⟨trivial, fun _ => ⟨h.report rfl rfl rfl, ?_⟩⟩)
      exact deserted.append.append
  | none => exact ⟨h.silent rfl rfl rfl, t, deserted, rfl⟩

/-- When the supervisor is done it was told that no listener is left, and then that no report is. -/
theorem keeps_supervise : supervise.Keeps (.traced fun _ _ => True) (fun halted t => Attended halted t ∧
    ∃ a b c, t = a ++ ⟨.notice, .allExited⟩ :: (b ++ ⟨.leftover, none⟩ :: c)) [] := by
  have begun : Attended [] [⟨.host (.record (.up 1)), ()⟩] := ⟨rfl, fun _ => rfl⟩
  refine keeps_do.mpr (keeps_ask_traced.mpr ⟨trivial, fun _ => keeps_do.mpr ?_⟩)
  refine (keeps_attend begun).mono ?_
  rintro halted t ⟨h, deserted⟩
  refine keeps_do.mpr ((keeps_countLeftovers h deserted).mono ?_)
  rintro _ _ ⟨h, _, ⟨a, b, rfl⟩, rfl⟩
  refine keeps_do.mpr (keeps_ask_traced.mpr ⟨trivial, fun _ =>
    ⟨h.quiet rfl rfl ?_, a, b, [⟨.host (.record (.up 0)), ()⟩], ?_⟩⟩)
  · rintro _ ⟨⟩ _
    rfl
  · simp

theorem asks_attend : attend.Asks RelayRequest.IsSupervising := by
  refine Asks.iterate fun halted => ⟨trivial, fun notice => ?_⟩
  rcases notice with report | ⟨d, e | ⟨⟩⟩ | _ | _
  · exact ⟨trivial, fun _ => trivial⟩
  all_goals trivial

theorem asks_countLeftovers : countLeftovers.Asks RelayRequest.IsSupervising := by
  refine Asks.iterate fun _ => ⟨trivial, fun left => ?_⟩
  cases left with
  | some report => exact ⟨trivial, fun _ => trivial⟩
  | none => trivial

theorem asks_supervise : supervise.Asks RelayRequest.IsSupervising :=
  Asks.bind ⟨trivial, fun _ => trivial⟩ fun _ => Asks.bind asks_attend fun _ =>
    Asks.bind asks_countLeftovers fun _ => ⟨trivial, fun _ => trivial⟩

/-- The supervisor sends no report and says of no listener that it has ended. -/
theorem supervisor_part (reached : Reaches (opening r) P) :
    (P.state.part none).filterMap sent? = [] ∧ (P.state.part none).filterMap exited? = [] := by
  have asked := asks_supervise.runs (runs_own reached none)
  have unseen : ∀ x : Exchange RelayInterface, x.request.IsSupervising → sent? x = none ∧ exited? x = none := by
    rintro ⟨request, answer⟩ h
    cases request with
    | host | notice | leftover => exact ⟨rfl, rfl⟩
    | _ => exact h.elim
  constructor <;> refine List.filterMap_eq_nil_iff.mpr fun x hx => ?_
  · exact (unseen x (asked x hx)).1
  · exact (unseen x (asked x hx)).2

/-! ## All together -/

theorem sum_of_le_one {ι : Type} {f : ι → Nat} {is : List ι} (h : ∀ i ∈ is, f i ≤ 1) :
    (is.map f).sum ≤ is.length ∧ (is.length ≤ (is.map f).sum → ∀ i ∈ is, f i = 1) := by
  induction is with
  | nil => simp
  | cons i is ih =>
      obtain ⟨first, later⟩ := List.forall_mem_cons.mp h
      obtain ⟨most, all⟩ := ih later
      rw [List.map_cons, List.sum_cons, List.length_cons]
      refine ⟨by omega, fun least => List.forall_mem_cons.mpr ⟨by omega, all (by omega)⟩⟩

/-- No listener says twice that it has ended, and if all say so, each has. -/
theorem exited_of_reaches (reached : Reaches (opening r) P) :
    (P.state.trace.filterMap exited?).length ≤ r.chains.length ∧
      (r.chains.length ≤ (P.state.trace.filterMap exited?).length → ∃ results : Fin r.chains.length → Listener.Result Unit,
        (∀ i, Ended P i (results i)) ∧
        (P.state.trace.filterMap exited?).Perm (r.places.map fun i => ((r.listener i).domain, results i))) := by
  have shares := (perm_parts P.state).filterMap exited?
  rw [List.filterMap_append, (supervisor_part reached).2, List.nil_append, List.filterMap_flatMap] at shares
  have once : ∀ i ∈ r.places, ((P.state.part (some i)).filterMap exited?).length ≤ 1 := by
    intro i _
    obtain ⟨-, -, -, none | ⟨_, -, one⟩⟩ := listener_part reached i
    · simp [none]
    · simp [one]
  obtain ⟨most, all⟩ := sum_of_le_one once
  rw [← List.length_flatMap, shares.length_eq, List.length_finRange] at most all
  refine ⟨most, fun least => ?_⟩
  have said (i : Fin r.chains.length) : ∃ result, Ended P i result ∧
      (P.state.part (some i)).filterMap exited? = [((r.listener i).domain, result)] := by
    obtain ⟨-, -, -, none | one⟩ := listener_part reached i
    · have one := all least i (List.mem_finRange i)
      simp [none] at one
    · exact one
  choose results ended one using said
  refine ⟨results, ended, shares.symm.trans (.of_eq ?_)⟩
  simp only [one]
  exact List.map_eq_flatMap.symm

/-- Once all listeners have said that they have ended, no report is sent. -/
theorem sent_after (reached : Reaches (opening r) P) {u : List (Exchange RelayInterface)} (split : P.state.trace = t ++ u)
    (all : r.chains.length ≤ (t.filterMap exited?).length) : u.filterMap sent? = [] := by
  obtain ⟨most, whole⟩ := exited_of_reaches reached
  rw [split, List.filterMap_append, List.length_append] at most whole
  obtain ⟨results, ended, -⟩ := whole (by omega)
  have none_exits : u.filterMap exited? = [] := List.length_eq_zero_iff.mp (by omega)
  obtain ⟨before, after, history, rfl, rfl⟩ := List.map_eq_append_iff.mp split
  -- the last exchange of a listener is that it has ended
  have supervisor : ∀ e ∈ after, e.worker = none := by
    intro e he
    by_contra other
    obtain ⟨i, hi⟩ := Option.ne_none_iff_exists'.mp other
    obtain ⟨-, t, part, -⟩ := ended i
    obtain none | ⟨front, last, own⟩ := List.eq_nil_or_concat (after.filter (·.worker = some i))
    · have own : e ∈ after.filter (·.worker = some i) := List.mem_filter.mpr ⟨he, by simp [hi]⟩
      rw [none] at own
      cases own
    · rw [House.part, House.own, history, List.filter_append, own, List.concat_eq_append, ← List.append_assoc,
        List.map_append, List.map_singleton] at part
      have exit := List.singleton_inj.mp (List.append_inj' part rfl).2
      have among : last ∈ after := (List.mem_filter.mp (own ▸ by simp : last ∈ after.filter (·.worker = some i))).1
      have seen := List.filterMap_eq_nil_iff.mp none_exits _ (List.mem_map_of_mem among)
      rw [exit] at seen
      cases seen
  refine List.filterMap_eq_nil_iff.mpr fun x hx => ?_
  obtain ⟨e, he, rfl⟩ := List.mem_map.mp hx
  have own : e ∈ P.state.own none := List.mem_filter.mpr ⟨history ▸ by simp [he], by simp [supervisor e he]⟩
  exact List.filterMap_eq_nil_iff.mp (supervisor_part reached).1 _ (List.mem_map_of_mem own)

theorem errors_reported {reports : List Report} {d : DomainId} {e : RelayError} :
    (reports.map fun report => (reported report).errors [toString d, e.kind]).sum =
      reports.countP fun report => report.domain = d ∧ report.error.kind = e.kind := by
  induction reports with
  | nil => rfl
  | cons report reports ih =>
      have one : (reported report).errors [toString d, e.kind] =
          if report.domain = d ∧ report.error.kind = e.kind then 1 else 0 := by
        simp [reported, Metrics.Update.errors, Metrics.error_labels_inj]
      rw [List.map_cons, List.sum_cons, ih, one, List.countP_cons, Nat.add_comm]
      simp only [decide_eq_true_eq]

/-- When the supervisor was told that no listener is left, all had ended and it had heard of each. -/
theorem heard_of_deserted (reached : Reaches (opening r) P) {u : List (Exchange RelayInterface)}
    (split : P.state.trace = t ++ ⟨.notice, .allExited⟩ :: u) : r.chains.length ≤ (t.filterMap exited?).length ∧
      (P.state.trace.filterMap exited?).Perm (P.state.trace.filterMap joined?) := by
  have accounted := accounted_of_reaches reached
  obtain ⟨all, heard⟩ := accounted.deserted t u split
  refine ⟨all, ?_⟩
  have most := (exited_of_reaches reached).1
  have ended := accounted.ended
  have lengths := ended.length_eq
  have before := heard.length_eq
  rw [split, List.filterMap_append, List.length_append] at most
  rw [split, List.filterMap_append, List.filterMap_append, List.length_append, List.length_append,
    List.length_append] at lengths
  have none : P.state.ended = [] := List.length_eq_zero_iff.mp (by omega)
  rwa [none, List.append_nil] at ended

/-- When no report was left, and none was sent later, all were received. -/
theorem received_of_drained (reached : Reaches (opening r) P) {u : List (Exchange RelayInterface)}
    (split : P.state.trace = t ++ ⟨.leftover, none⟩ :: u) (quiet : u.filterMap sent? = []) :
    P.state.trace.filterMap sent? = P.state.trace.filterMap received? := by
  have accounted := accounted_of_reaches reached
  have channel := accounted.channel
  have before := accounted.drained t u split
  have sent : P.state.trace.filterMap sent? = t.filterMap sent? := by
    rw [split, List.filterMap_append, List.filterMap_cons_none rfl, quiet, List.append_nil]
  have received : P.state.trace.filterMap received? = t.filterMap received? ++ u.filterMap received? := by
    rw [split, List.filterMap_append, List.filterMap_cons_none rfl]
  rw [sent, received, before, List.append_assoc] at channel
  have none := List.append_eq_nil_iff.mp (List.self_eq_append_right.mp channel)
  rw [sent, received, before, none.1, List.append_nil]

/-- When the supervisor is done, it has heard of the end of every listener and has every report. -/
theorem closed_of_returned (reached : Reaches (opening r) P) (returned : P.programs none = done halted) :
    Attended halted (P.state.part none) ∧ r.chains.length ≤ (P.state.trace.filterMap exited?).length ∧
      (P.state.trace.filterMap exited?).Perm (P.state.trace.filterMap joined?) ∧
      P.state.trace.filterMap sent? = P.state.trace.filterMap received? := by
  have run : supervise.Runs (P.state.part none) (done halted) := returned ▸ runs_own reached none
  obtain ⟨attended, a, b, c, part⟩ := keeps_supervise.done_traced run
  -- its two last answers are in the history of all workers, in this order
  have told : [⟨.notice, .allExited⟩, ⟨.leftover, none⟩].Sublist P.state.trace := by
    have within : (P.state.part none).Sublist P.state.trace := List.filter_sublist.map _
    refine .trans ?_ within
    rw [part]
    exact .trans (.cons_cons _ (List.singleton_sublist.mpr (by simp))) (List.sublist_append_right ..)
  obtain ⟨front, back, split, deserted, drained⟩ := List.cons_sublist_iff.mp told
  obtain ⟨p, q, rfl⟩ := List.append_of_mem deserted
  obtain ⟨p', q', rfl⟩ := List.append_of_mem (List.singleton_sublist.mp drained)
  obtain ⟨all, heard⟩ := heard_of_deserted reached (split.trans (List.append_assoc ..))
  have quiet := sent_after reached (split.trans (List.append_assoc ..)) all
  refine ⟨attended, ?_, heard, received_of_drained reached (split.trans (List.append_assoc ..).symm) ?_⟩
  · rw [split, List.append_assoc, List.filterMap_append, List.length_append]
    exact Nat.le_add_right_of_le all
  · exact List.filterMap_eq_nil_iff.mpr fun x hx => List.filterMap_eq_nil_iff.mp quiet x (by simp [hx])

/-! ## Main statement -/

/-- When the supervisor is done, each listener has ended; those it names are exactly the listeners that ended with an error,
each once and with that error; and the counter of each domain and kind of error has the number of reports with these that
were sent. -/
theorem no_failure_is_lost (reached : Reaches (opening r) P) (returned : P.programs none = done halted) :
    ∃ results : Fin r.chains.length → Listener.Result Unit, (∀ i, Ended P i (results i)) ∧
      halted.Perm (r.places.filterMap fun i => halted? ((r.listener i).domain, results i)) ∧
      ∀ (d : DomainId) (e : RelayError), P.state.metrics.get .errors [toString d, e.kind] =
        (P.state.trace.filterMap sent?).countP fun report => report.domain = d ∧ report.error.kind = e.kind := by
  obtain ⟨attended, all, heard, received⟩ := closed_of_returned reached returned
  obtain ⟨results, ended, exits⟩ := (exited_of_reaches reached).2 all
  have parts := perm_parts P.state
  -- only the supervisor hears of reports and of ends
  have alone {β : Type} {f : Exchange RelayInterface → Option β} (unheard : ∀ i, (P.state.part (some i)).filterMap f = []) :
      ((P.state.part none).filterMap f).Perm (P.state.trace.filterMap f) := by
    have shares := parts.filterMap f
    rwa [List.filterMap_append, List.filterMap_flatMap, List.flatMap_eq_nil_iff.mpr fun i _ => unheard i,
      List.append_nil] at shares
  refine ⟨results, ended, ?_, fun d e => ?_⟩
  · have joins := alone fun i => (listener_part reached i).2.1
    have names := ((joins.trans heard.symm).trans exits).filterMap halted?
    rwa [attended.halted, List.filterMap_map] at names
  · have counts : tally [toString d, e.kind] P.state.trace = tally [toString d, e.kind] (P.state.part none) := by
      rw [← tally_perm parts, tally_append, tally_flatMap fun i _ => (listener_part reached i).2.2.1 _, Nat.add_zero]
    have reports := alone fun i => (listener_part reached i).1
    rw [(accounted_of_reaches reached).metrics, Metrics.errors_records]
    change 0 + (tally [toString d, e.kind] P.state.trace : Int) = _
    rw [counts, attended.counted, (reports.map _).sum_eq, ← received, errors_reported, zero_add]

/-! ## A halted listener -/

section Sample

open Listener

/-- Two chains. -/
def sampleTwins : Relay where
  chains := [⟨Listener.sample, { Writer.sample with domain := 1 }⟩, ⟨{ Listener.sample with domain := 2 }, Writer.sample⟩]

def sampleCause : RelayError := undecodable sampleNoDeposit .missingTopic

def sampleReport : Report := ⟨1, .listener, sampleCause⟩

/-- The first listener meets a log that is no deposit. -/
theorem runs_sampleHalting : (sampleTwins.work (some ⟨0, by decide⟩)).Runs
    [⟨.store (.load (Checkpoint.key 1)), .ok none⟩, ⟨.host .stopping, false⟩, ⟨.source 0 .head, .ok 8⟩,
     ⟨.host (.record (.latestBlock 1 8)), ()⟩, ⟨.source 0 (.deposits 1 3), .ok [sampleNoDeposit]⟩,
     ⟨.host .stopping, false⟩, ⟨.report sampleReport, ()⟩, ⟨.exit 1 (.error sampleCause), ()⟩] (done []) :=
  .ask rfl (.silent rfl (.ask rfl (.ask rfl (.ask rfl (.ask rfl (.ask rfl (.ask rfl (.ask rfl .stay))))))))

/-- The second listener is stopped. -/
theorem runs_sampleStopping : (sampleTwins.work (some ⟨1, by decide⟩)).Runs
    [⟨.store (.load (Checkpoint.key 2)), .ok none⟩, ⟨.host .stopping, true⟩, ⟨.exit 2 (.ok ()), ()⟩] (done []) :=
  .ask rfl (.silent rfl (.ask rfl (.ask rfl .stay)))

/-- The supervisor hears of both ends, the later one first, and finds the report when it looks what is left. -/
theorem runs_sampleSupervising : (sampleTwins.work none).Runs
    [⟨.host (.record (.up 1)), ()⟩, ⟨.notice, .exited 2 (.ok ())⟩, ⟨.notice, .exited 1 (.error sampleCause)⟩,
     ⟨.notice, .allExited⟩, ⟨.leftover, some sampleReport⟩, ⟨.host (.record (.error 1 "malformed_event")), ()⟩,
     ⟨.leftover, none⟩, ⟨.host (.record (.up 0)), ()⟩] (done [⟨1, sampleCause⟩]) :=
  .ask rfl (.silent rfl (.ask rfl (.silent rfl (.ask rfl (.silent rfl (.ask rfl (.silent rfl (.ask rfl (.ask rfl
    (.silent rfl (.ask rfl (.ask rfl .stay))))))))))))

/-- Both listeners end before the supervisor is told anything. -/
theorem reaches_sampleReturn : ∃ P, Reaches (opening sampleTwins) P ∧ P.programs none = done [⟨1, sampleCause⟩] ∧
    P.state.trace.filterMap sent? = [sampleReport] := by
  have first := Pool.Reaches.of_runs (i := some ⟨0, by decide⟩) (W := House.world) (P := opening sampleTwins)
    runs_sampleHalting rfl rfl
    (.cons rfl ⟨false, _, id, .outside trivial, rfl⟩ (.cons rfl ⟨false, _, id, .stopping, rfl⟩
      (.cons rfl ⟨false, _, id, .outside trivial, rfl⟩ (.cons rfl ⟨false, _, id, .record _, rfl⟩
      (.cons rfl ⟨false, _, id, .outside trivial, rfl⟩ (.cons rfl ⟨false, _, id, .stopping, rfl⟩
      (.cons rfl ⟨false, _, id, .report _, rfl⟩ (.cons rfl ⟨false, _, id, .exit .., rfl⟩ .nil))))))))
  have second := first.trans (Pool.Reaches.of_runs (i := some ⟨1, by decide⟩) runs_sampleStopping rfl rfl
    (.cons rfl ⟨false, _, id, .outside trivial, rfl⟩ (.cons rfl ⟨true, _, fun _ => rfl, .stopping, rfl⟩
      (.cons rfl ⟨true, _, fun _ => rfl, .exit .., rfl⟩ .nil))))
  have third := second.trans (Pool.Reaches.of_runs (i := none) runs_sampleSupervising rfl rfl
    (.cons rfl ⟨true, _, fun _ => rfl, .record _, rfl⟩
      (.cons rfl ⟨true, _, fun _ => rfl, @House.Serves.joined _ _ 2 (.ok ()) [_] [] rfl, rfl⟩
      (.cons rfl ⟨true, _, fun _ => rfl, @House.Serves.joined _ _ 1 (.error sampleCause) [] [] rfl, rfl⟩
      (.cons rfl ⟨true, _, fun _ => rfl, .deserted rfl rfl, rfl⟩
      (.cons rfl ⟨true, _, fun _ => rfl, .leftover rfl, rfl⟩ (.cons rfl ⟨true, _, fun _ => rfl, .record _, rfl⟩
      (.cons rfl ⟨true, _, fun _ => rfl, .drained rfl, rfl⟩ (.cons rfl ⟨true, _, fun _ => rfl, .record _, rfl⟩ .nil)))))))))
  exact ⟨_, third, rfl, rfl⟩

theorem sample_no_failure_is_lost : ∃ P, Reaches (opening sampleTwins) P ∧ P.programs none = done [⟨1, sampleCause⟩] ∧
    (∃ results : Fin 2 → Listener.Result Unit, (∀ i, Ended P i (results i)) ∧
      [⟨1, sampleCause⟩].Perm (sampleTwins.places.filterMap fun i => halted? ((sampleTwins.listener i).domain, results i))) ∧
    P.state.metrics.get .errors ["1", "malformed_event"] = 1 := by
  obtain ⟨P, reached, returned, sent⟩ := reaches_sampleReturn
  obtain ⟨results, ended, named, counted⟩ := no_failure_is_lost reached returned
  have once := counted 1 sampleCause
  rw [sent] at once
  exact ⟨P, reached, returned, ⟨results, ended, named⟩, once⟩

end Sample

end Relay

end BridgeRelay
