import BridgeRelay.Proofs.Listener.Handling
import BridgeRelay.Proofs.Listener.Reads
import BridgeRelay.Proofs.Listener.Rounds

/-!
# Commits

A listener saves a checkpoint only at the end of a scan that handled every deposit of its window.
-/

namespace BridgeRelay.Listener

open Program

variable {l : Listener} {t : Trace}

/-- The trace ends with a scan of a window up to a block, and all deposits of that window were handled in it. -/
def Committable (l : Listener) (t : Trace) (last : Height) : Prop :=
  ∃ before first logs scan, t = before ++ ⟨.chain (.deposits first last), .ok logs⟩ :: scan ∧
    WithinScan scan ∧ l.AllHandled logs scan

/-- A value is saved only as the checkpoint of a window that may be committed. -/
def SavesDue (l : Listener) (t : Trace) : ListenerRequest → Prop
  | .store (.save key value) =>
      ∃ last, key = Checkpoint.key l.domain ∧ value = Checkpoint.encode last ∧ l.Committable t last
  | _ => True

/-- A trace was continued within the same scan. -/
def Continued (t : Trace) (P : Trace → Prop) (t' : Trace) : Prop := ∃ u, t' = t ++ u ∧ WithinScan u ∧ P u

theorem continued_self {P : Trace → Prop} : Continued t P t ↔ P [] := by
  simp [Continued]

theorem continued_self_append {P : Trace → Prop} {u : Trace} : Continued t P (t ++ u) ↔ WithinScan u ∧ P u := by
  simp [Continued]

section Continued

variable {P P' P'' : Trace → Prop} {t' t'' : Trace}

theorem Continued.mono (h : Continued t P t') (hP : ∀ u, P u → P' u) : Continued t P' t' := by
  obtain ⟨u, rfl, hu, hp⟩ := h
  exact ⟨u, rfl, hu, hP u hp⟩

theorem Continued.trans (h : Continued t P t') (h' : Continued t' P' t'')
    (hP : ∀ u v, P u → P' v → P'' (u ++ v)) : Continued t P'' t'' := by
  obtain ⟨u, rfl, hu, hp⟩ := h
  obtain ⟨v, rfl, hv, hp'⟩ := h'
  exact ⟨u ++ v, List.append_assoc .., withinScan_append.mpr ⟨hu, hv⟩, hP u v hp hp'⟩

theorem Continued.snoc {x : Exchange ListenerInterface} (h : Continued t P t') (hx : WithinScan [x])
    (hP : ∀ u, P u → P' (u ++ [x])) : Continued t P' (t' ++ [x]) :=
  h.trans (continued_self_append (P := fun v => v = [x]).mpr ⟨hx, rfl⟩) fun u _ hu hv => hv ▸ hP u hu

end Continued

theorem keeps_send {m : Message} : (l.send m).Keeps (.traced l.SavesDue) (fun r => Continued t fun u =>
    r = .ok .handled → ∃ answer, handovers u = [⟨m.destination, m, answer⟩] ∧ l.Settles m u answer) t := by
  refine keeps_do.mpr (keeps_ask_traced.mpr ⟨trivial, fun answer => ?_⟩)
  rcases answer with (d | e) | outcome
  · simp [SavesDue, complain, continued_self_append, Settles, Reported]
  · refine keeps_done.mpr ?_
    dsimp only
    split
    · simp [SavesDue, continued_self_append]
    · simp [SavesDue, continued_self_append, Settles, Reported, *]
  · cases outcome <;> simp [SavesDue, continued_self_append, Settles]

theorem keeps_insist_handler {r : ResourceId} : (l.insist (Source.query (.handler r))).Keeps (.traced l.SavesDue)
    (fun a => Continued t fun u =>
      handovers u = [] ∧ ∀ handler, a = .ok handler → ⟨.chain (.handler r), .ok handler⟩ ∈ u) t := by
  refine keeps_insist (Continued t fun u => handovers u = []) (continued_self.mpr rfl) (fun _ _ _ => trivial) ?_ ?_ ?_
  · rintro t' r a h
    exact h.snoc (by simp) (by simp)
  · rintro t' h
    refine keeps_ask_traced.mpr ⟨trivial, fun a => ⟨h.snoc (by simp) (by simp), fun handler ha => ?_⟩⟩
    exact h.snoc (by simp) (by simp [ha])
  · rintro e t' h
    exact h.mono (by simp)

theorem keeps_handle {log : DepositLog} : (l.handle log).Keeps (.traced l.SavesDue)
    (fun r => Continued t fun u => r = .ok .handled → l.Handled log u) t := by
  unfold handle
  cases hd : Deposit.ofLog log with
  | error f => simp [continued_self]
  | ok d =>
      simp only [keeps_do, keeps_record]
      refine ⟨trivial, fun _ => keeps_insist_handler.mono ?_⟩
      intro answer t' h
      -- the look-up, after the deposit was counted
      have looked : Continued t (fun u => handovers u = [] ∧
          ∀ handler, answer = .ok handler → ⟨.chain (.handler d.resource), .ok handler⟩ ∈ u) t' :=
        (continued_self_append (P := fun u => handovers u = []).mpr ⟨by simp, rfl⟩).trans h (by simp_all)
      rcases answer with e | handler
      · exact looked.mono (by simp)
      · cases hk : l.handlers.find? handler with
        | none =>
            simp only [hk, complain, keeps_do, keeps_record, keeps_report, keeps_pure, List.append_assoc]
            refine ⟨trivial, fun _ => ⟨trivial, fun _ => looked.trans (continued_self_append.mpr ⟨by simp, rfl⟩) ?_⟩⟩
            rintro u _ ⟨hu, hh⟩ rfl -
            refine ⟨d, handler, hd, List.mem_append_left _ (hh handler rfl), ?_⟩
            simp [hk, hu, Reported]
        | some kind =>
            cases hp : Payload.decode kind d.data with
            | error f => simp only [hk, hp]; exact looked.mono (by simp)
            | ok p =>
                simp only [hk, hp]
                refine keeps_send.mono fun r t'' sent => looked.trans sent ?_
                rintro u v ⟨hu, hh⟩ hv hr
                obtain ⟨answer, hv, hs⟩ := hv hr
                refine ⟨d, handler, hd, List.mem_append_left _ (hh handler rfl), ?_⟩
                simp only [hk]
                exact ⟨p, answer, hp, by simp [hu, hv]; rfl, hs.right u⟩

theorem keeps_handleAll {logs : List DepositLog} : (l.handleAll logs).Keeps (.traced l.SavesDue)
    (fun r => Continued t fun u => r = .ok .handled → l.AllHandled logs u) t := by
  induction logs generalizing t with
  | nil => simp [handleAll, continued_self, AllHandled]
  | cons log logs ih =>
      unfold handleAll
      simp only [keeps_do, keeps_stopping]
      refine ⟨trivial, fun stopping => ?_⟩
      cases stopping with
      | true => simp [continued_self_append]
      | false =>
          refine keeps_do.mpr (keeps_handle.mono ?_)
          intro r t' h
          -- the deposit, after the look at the stop flag
          have first : Continued t (fun u => r = .ok .handled → l.Handled log u) t' :=
            (continued_self_append (P := fun u => u = [⟨.host .stopping, false⟩]).mpr ⟨by simp, rfl⟩).trans h
              fun u v hu hv hr => hu ▸ (hv hr).cons_host
          rcases r with e | (_ | _)
          · exact first.mono (by simp)
          · refine ih.mono fun r t'' rest => first.trans rest ?_
            exact fun u v hu hv hr => ⟨u, v, rfl, hu rfl, hv hr⟩
          · exact first.mono (by simp)

theorem Committable.snoc {last : Height} {x : Exchange ListenerInterface} (h : l.Committable t last)
    (hx : WithinScan [x]) (ha : handovers [x] = []) : l.Committable (t ++ [x]) last := by
  obtain ⟨before, first, logs, scan, rfl, hs, hl⟩ := h
  exact ⟨before, first, logs, scan ++ [x], by simp, withinScan_append.mpr ⟨hs, hx⟩, hl.append ha⟩

/-! ## Windows -/

theorem keeps_commit {last : Height} (h : l.Committable t last) :
    (l.commit last).Keeps (.traced l.SavesDue) (fun _ _ => True) t := by
  refine keeps_do.mpr (keeps_do.mpr (keeps_get.mpr ⟨trivial, fun loaded => ?_⟩))
  rcases loaded.bind (Checkpoint.decode l.domain) with e | stored
  · trivial
  · dsimp only
    split
    · trivial
    · refine keeps_ask_traced.mpr ⟨⟨last, rfl, rfl, h.snoc (by simp) rfl⟩, fun saved => ?_⟩
      rcases saved with e | _
      · trivial
      · simp [SavesDue]

theorem keeps_scan {w : Window} : (l.scan w).Keeps (.traced l.SavesDue) (fun _ _ => True) t := by
  refine keeps_do.mpr (keeps_ask_traced.mpr ⟨trivial, fun logs => ?_⟩)
  rcases logs with e | logs
  · trivial
  · refine keeps_done.mpr (keeps_do.mpr (keeps_handleAll.mono ?_))
    rintro (e | (_ | _)) t' ⟨u, rfl, hu, h⟩
    · trivial
    · exact keeps_commit ⟨t, w.first, logs, u, by simp, hu, h rfl⟩
    · trivial

theorem keeps_poll {checkpoint : Height} :
    (l.poll checkpoint).Keeps (.traced l.SavesDue) (fun _ _ => True) t := by
  refine keeps_do.mpr (keeps_ask_traced.mpr ⟨trivial, fun head => ?_⟩)
  rcases head with e | head
  · trivial
  · simp only [keeps_done, keeps_do, keeps_record]
    refine ⟨trivial, fun _ => ?_⟩
    split
    · trivial
    · exact keeps_scan

/-! ## The whole -/

theorem steady_savesDue : Steady (.traced l.SavesDue) fun _ _ => True where
  drift _ _ _ _ _ := trivial
  permits t r hr := by
    rcases r with q | r | (key | ⟨key, value⟩) | ⟨d, m⟩ | r
    case store.save => exact hr.elim
    all_goals trivial
  reply _ _ _ _ _ _ _ := trivial

theorem keeps_run : l.run.Keeps (.traced l.SavesDue) (fun _ _ => True) t :=
  steady_savesDue.keeps_run ((steady_savesDue.keeps (c := 0) mild_start trivial).mono fun _ _ _ _ _ => trivial)
    fun _ _ _ => keeps_poll.mono fun _ _ _ => polled_true

theorem savesDue_of_runs {x : Exchange ListenerInterface} {u : Trace} {q : Program ListenerInterface (Result Unit)}
    (h : l.run.Runs (t ++ x :: u) q) : l.SavesDue t x.request := keeps_run.permits_traced h

end BridgeRelay.Listener
