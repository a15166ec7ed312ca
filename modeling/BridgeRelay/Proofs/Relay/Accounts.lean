import BridgeRelay.Proofs.Metrics.Errors
import BridgeRelay.Proofs.Relay.Crew

/-!
# Accounts of a relay

What the history of a relay says of its channel, its counters and its listeners that have ended: a report that was sent was
received or is in the channel, and a listener that has ended was heard of or waits to be.
-/

namespace BridgeRelay.Relay

open Program

/-! ## What exchanges show -/

/-- The report that is sent. -/
def sent? : Exchange RelayInterface → Option Report
  | ⟨.report report, _⟩ => some report
  | _ => none

/-- The report that the supervisor gets. -/
def received? : Exchange RelayInterface → Option Report
  | ⟨.notice, .report report⟩ | ⟨.leftover, some report⟩ => some report
  | _ => none

/-- The listener that says that it has ended, with its result. -/
def exited? : Exchange RelayInterface → Option (DomainId × Except RelayError Unit)
  | ⟨.exit d result, _⟩ => some (d, result)
  | _ => none

/-- The listener of whose end the supervisor hears. -/
def joined? : Exchange RelayInterface → Option (DomainId × Except RelayError Unit)
  | ⟨.notice, .exited d result⟩ => some (d, result)
  | _ => none

/-- What is counted. -/
def counted? : Exchange RelayInterface → Option Metrics.Update
  | ⟨.host (.record u), _⟩ => some u
  | _ => none

variable {r : Relay} {s s' : House r} {w : r.Worker} {x y : Exchange RelayInterface} {P : Crew r}
  {t a b : List (Exchange RelayInterface)}

/-- What was asked and answered so far. -/
def House.trace (s : House r) : List (Exchange RelayInterface) := s.history.map Entry.exchange

/-! ## Accounts -/

/-- What the history says of the house. -/
structure House.Accounted (s : House r) : Prop where
  channel : s.trace.filterMap sent? = s.trace.filterMap received? ++ s.channel
  ended : (s.trace.filterMap exited?).Perm (s.trace.filterMap joined? ++ s.ended)
  running : r.chains.length ≤ s.running + (s.trace.filterMap exited?).length
  metrics : s.metrics = (s.trace.filterMap counted?).foldl Metrics.record {}
  /-- all had ended and been heard of when the supervisor was told so -/
  deserted (a b : List (Exchange RelayInterface)) : s.trace = a ++ ⟨.notice, .allExited⟩ :: b →
    r.chains.length ≤ (a.filterMap exited?).length ∧ (a.filterMap exited?).Perm (a.filterMap joined?)
  /-- all reports had been received when none was left -/
  drained (a b : List (Exchange RelayInterface)) : s.trace = a ++ ⟨.leftover, none⟩ :: b →
    a.filterMap sent? = a.filterMap received?

theorem filterMap_snoc {β : Type} (f : Exchange RelayInterface → Option β) :
    (t ++ [x]).filterMap f = t.filterMap f ++ (f x).toList := by
  cases h : f x <;> simp [List.filterMap_append, h]

theorem split_snoc (h : t ++ [x] = a ++ y :: b) : (∃ b, t = a ++ y :: b) ∨ t = a ∧ x = y := by
  obtain rfl | ⟨b, z, rfl⟩ := List.eq_nil_or_concat b
  · obtain ⟨rfl, same⟩ := List.append_inj' h rfl
    exact .inr ⟨rfl, List.head_eq_of_cons_eq same⟩
  · rw [List.concat_eq_append, ← List.cons_append, ← List.append_assoc] at h
    exact .inl ⟨b, (List.append_inj' h rfl).1⟩

theorem House.Serves.eq_of_outside (h : s.Serves x s') (outside : x.request.IsOutside) : s' = s := by
  cases h with
  | outside => rfl
  | _ => cases outside

/-- What the workers do not share is no account. -/
theorem unseen_of_outside (h : x.request.IsOutside) : sent? x = none ∧ received? x = none ∧ exited? x = none ∧
    joined? x = none ∧ counted? x = none ∧ x ≠ ⟨.notice, .allExited⟩ ∧ x ≠ ⟨.leftover, none⟩ := by
  obtain ⟨request, answer⟩ := x
  rcases request with (_ | _ | _ | _ | _ | _) | _ | _ | _ | _ | _ | _ | _ | _ | _ | _ | _
  all_goals first | exact h.elim | exact ⟨rfl, rfl, rfl, rfl, rfl, nofun, nofun⟩

theorem House.Serves.trace_eq (h : s.Serves x s') : s'.trace = s.trace := congrArg (List.map _) h.history_eq

section Served

variable (h : s.Accounted) (served : s.Serves x s')

include h served

/-- What is sent joins the channel, and what is received leaves it. -/
theorem House.Accounted.channel_served :
    (s.trace ++ [x]).filterMap sent? = (s.trace ++ [x]).filterMap received? ++ s'.channel := by
  rw [filterMap_snoc, filterMap_snoc, h.channel]
  cases served with
  | outside outside => simp [unseen_of_outside outside]
  | received queue | leftover queue => simp [sent?, received?, queue]
  | _ => simp [sent?, received?]

theorem House.Accounted.ended_served :
    ((s.trace ++ [x]).filterMap exited?).Perm ((s.trace ++ [x]).filterMap joined? ++ s'.ended) := by
  rw [filterMap_snoc, filterMap_snoc]
  refine (h.ended.append_right _).trans ?_
  cases served with
  | outside outside => simp [unseen_of_outside outside]
  | joined ended => simpa [ended, exited?, joined?] using List.perm_middle.append_left _
  | _ => simp [exited?, joined?]

theorem House.Accounted.running_served :
    r.chains.length ≤ s'.running + ((s.trace ++ [x]).filterMap exited?).length := by
  rw [filterMap_snoc, List.length_append]
  have before := h.running
  cases served with
  | outside outside => simpa [unseen_of_outside outside] using before
  | exit d result =>
      simp only [exited?, Option.toList_some, List.length_singleton]
      omega
  | _ => simpa [exited?] using before

theorem House.Accounted.metrics_served :
    s'.metrics = ((s.trace ++ [x]).filterMap counted?).foldl Metrics.record {} := by
  rw [filterMap_snoc, List.foldl_append, ← h.metrics]
  cases served with
  | outside outside => simp [unseen_of_outside outside]
  | _ => simp [counted?]

theorem House.Accounted.deserted_served (split : s.trace ++ [x] = a ++ ⟨.notice, .allExited⟩ :: b) :
    r.chains.length ≤ (a.filterMap exited?).length ∧ (a.filterMap exited?).Perm (a.filterMap joined?) := by
  obtain ⟨b, earlier⟩ | ⟨rfl, rfl⟩ := split_snoc split
  · exact h.deserted a b earlier
  · cases served with
    | outside outside => exact outside.elim
    | deserted running ended =>
        have left := h.ended
        have gone := h.running
        rw [ended, List.append_nil] at left
        exact ⟨by omega, left⟩

theorem House.Accounted.drained_served (split : s.trace ++ [x] = a ++ ⟨.leftover, none⟩ :: b) :
    a.filterMap sent? = a.filterMap received? := by
  obtain ⟨b, earlier⟩ | ⟨rfl, rfl⟩ := split_snoc split
  · exact h.drained a b earlier
  · cases served with
    | outside outside => exact outside.elim
    | drained none => rw [h.channel, none, List.append_nil]

theorem House.Accounted.serves {stopping : Bool} : (s'.note ⟨w, x, stopping⟩).Accounted := by
  have trace : (s'.note ⟨w, x, stopping⟩).trace = s.trace ++ [x] := by
    rw [← served.trace_eq]
    simp [House.trace, House.note]
  -- these are about the house before the note, which is no account but the trace
  have channel := h.channel_served served
  have ended := h.ended_served served
  have running := h.running_served served
  have metrics := h.metrics_served served
  constructor <;> rw [trace]
  · exact channel
  · exact ended
  · exact running
  · exact metrics
  · exact fun _ _ split => h.deserted_served served split
  · exact fun _ _ split => h.drained_served served split

end Served

theorem accounted_opening : (opening r).state.Accounted where
  channel := rfl
  ended := .nil
  running := Nat.le_refl _
  metrics := rfl
  deserted _ _ split := absurd split (by simp [opening, House.trace])
  drained _ _ split := absurd split (by simp [opening, House.trace])

theorem accounted_of_reaches (reached : Reaches (opening r) P) : P.state.Accounted := by
  refine invariant_of_reaches accounted_opening ?_ reached
  rintro w s x _ ⟨stopping, s₁, -, serves, rfl⟩ h
  -- the stop flag is no part of the accounts
  have h : ({ s with stopping } : House r).Accounted :=
    ⟨h.channel, h.ended, h.running, h.metrics, h.deserted, h.drained⟩
  exact h.serves serves

/-! ## The shares of the workers -/

/-- A list is made up of what belongs to each index. -/
theorem perm_flatMap_filter {α ι : Type} [DecidableEq ι] (f : α → ι) {is : List ι} (once : is.Nodup) {l : List α}
    (known : ∀ a ∈ l, f a ∈ is) : (is.flatMap fun i => l.filter (f · = i)).Perm l := by
  induction l with
  | nil => simp
  | cons a l ih =>
      obtain ⟨here, known⟩ := List.forall_mem_cons.mp known
      obtain ⟨before, after, rfl⟩ := List.append_of_mem here
      have apart : ∀ i ∈ before ++ after, f a ≠ i := by
        intro i hi same
        have fresh := (List.nodup_cons.mp (List.perm_middle.nodup_iff.mp once)).1
        exact fresh (same ▸ hi)
      have others : ∀ is, is ⊆ before ++ after →
          (is.flatMap fun i => (a :: l).filter (f · = i)) = is.flatMap fun i => l.filter (f · = i) := by
        intro is within
        refine List.flatMap_congr fun i hi => ?_
        rw [List.filter_cons_of_neg (by simpa using apart i (within hi))]
      refine .trans ?_ ((ih known).cons a)
      rw [List.flatMap_append, List.flatMap_cons, List.flatMap_append, List.flatMap_cons,
        others before (List.subset_append_left ..), others after (List.subset_append_right ..),
        List.filter_cons_of_pos (by simp)]
      exact List.perm_middle

/-- The listeners of a relay. -/
abbrev places (r : Relay) : List (Fin r.chains.length) := List.finRange r.chains.length

/-- What a worker asked and was answered. -/
def House.part (s : House r) (w : r.Worker) : List (Exchange RelayInterface) := (s.own w).map Entry.exchange

/-- The trace is made up of the parts of the workers. -/
theorem perm_parts (s : House r) : (s.part none ++ r.places.flatMap fun i => s.part (some i)).Perm s.trace := by
  let workers : List r.Worker := none :: r.places.map some
  have once : workers.Nodup := by
    simpa [workers] using (List.nodup_finRange _).map fun _ _ => Option.some.inj
  have known : ∀ e ∈ s.history, e.worker ∈ workers := by
    intro e _
    cases e.worker <;> simp [workers]
  have parts := (perm_flatMap_filter Entry.worker once known).map Entry.exchange
  simpa [workers, List.map_flatMap, List.flatMap_map, House.part, House.trace, House.own] using parts

end BridgeRelay.Relay
