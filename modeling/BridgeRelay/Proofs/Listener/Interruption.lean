import BridgeRelay.Proofs.Listener.Scans

/-!
# Interrupted messages

What surrounds a message whose writer was interrupted: before it only the handling of its window, behind it only a look
at the stop flag, with which the listener ends.
-/

namespace BridgeRelay.Listener

open Program

variable {l : Listener} {t u : Trace} {logs : List DepositLog} {s s' : Scan} {x : Exchange ListenerInterface}

/-! ## Before -/

/-- A window is open: its deposits were told, and since then nothing was asked for another window or saved. -/
def Opened (logs : List DepositLog) (t : Trace) : Prop :=
  ∃ before first last scan, t = before ++ ⟨.chain (.deposits first last), .ok logs⟩ :: scan ∧
    ∀ x ∈ scan, x.request.IsAside

theorem Opened.snoc (h : Opened logs t) (aside : x.request.IsAside) : Opened logs (t ++ [x]) := by
  obtain ⟨before, first, last, scan, rfl, asides⟩ := h
  refine ⟨before, first, last, scan ++ [x], by simp, fun y hy => ?_⟩
  exact (List.mem_append.mp hy).elim (asides y) fun hy => List.mem_singleton.mp hy ▸ aside

/-- The deposit that is being handled, once its log is read. -/
def Stage.deposit? : Stage → Option Deposit
  | .detected d | .looked d _ => some d
  | _ => none

/-- Nothing is left of a scan, or its logs are the last ones of an open window, and the deposit being handled is that of
the first of them. -/
inductive Tracked (t : Trace) : Scan → Prop where
  | left {s : Scan} (h : s.left = true) : Tracked t s
  | within {logs rest : List DepositLog} {stage : Stage} (opened : Opened logs t) (among : rest ⊆ logs)
      (read : ∀ d, stage.deposit? = some d → ∃ log, rest.head? = some log ∧ Deposit.ofLog log = .ok d) :
      Tracked t ⟨rest, stage, false⟩

theorem isAside_of_isQuiet {r : ListenerRequest} (h : r.IsQuiet) : r.IsAside := by
  rcases r with (_ | _ | _) | _ | (_ | _) | _ | _
  all_goals first | exact h.elim | trivial

theorem Step.tracked (step : l.Step s x s') (h : Tracked t s) : Tracked (t ++ [x]) s' := by
  cases step with
  | quiet quiet =>
      cases h with
      | left h => exact .left h
      | within opened among read => exact .within (opened.snoc (isAside_of_isQuiet quiet)) among read
  | unread | save | leave => exact .left rfl
  | begin => exact .within ⟨t, _, _, [], rfl, List.forall_mem_nil _⟩ (List.Subset.refl _) nofun
  | detect read =>
      obtain ⟨⟨⟩⟩ | ⟨opened, among, -⟩ := h
      refine .within (opened.snoc trivial) among ?_
      rintro _ ⟨⟩
      exact ⟨_, rfl, read⟩
  | miss | look =>
      obtain ⟨⟨⟩⟩ | ⟨opened, among, read⟩ := h
      exact .within (opened.snoc trivial) among read
  | hand | drop | count =>
      obtain ⟨⟨⟩⟩ | ⟨opened, among, -⟩ := h
      exact .within (opened.snoc trivial) among nofun
  | pass | report =>
      obtain ⟨⟨⟩⟩ | ⟨opened, among, -⟩ := h
      exact .within (opened.snoc trivial) (List.subset_of_cons_subset among) nofun

theorem tracked_of_along (along : l.scanning.Along s u s') (h : Tracked t s) : Tracked (t ++ u) s' := by
  induction along generalizing t with
  | nil => simpa using h
  | cons drift step _ ih =>
      cases drift
      simpa using ih (step.tracked h)

/-- A message is handed over within an open window, and is the message of one of its deposits. -/
theorem opened_of_route {d : DomainId} {m : Message} {answer : Except RouteError Outcome}
    {q : Program ListenerInterface (Result Unit)} (run : l.run.Runs (t ++ ⟨.route d m, answer⟩ :: u) q) :
    ∃ logs log deposit p, Opened logs t ∧ log ∈ logs ∧ Deposit.ofLog log = .ok deposit ∧ m = l.message log deposit p := by
  obtain ⟨_, along⟩ := along_of_runs run
  obtain ⟨s, along, _ | ⟨drift, step, _⟩⟩ := along.of_append
  cases drift
  have tracked : Tracked t s := by simpa using tracked_of_along (t := []) along (.left rfl)
  cases step with
  | quiet quiet => exact quiet.elim
  | hand _ _ message =>
      obtain ⟨⟨⟩⟩ | ⟨opened, among, read⟩ := tracked
      obtain ⟨_, ⟨⟩, read⟩ := read _ rfl
      exact ⟨_, _, _, _, opened, among (List.mem_cons_self ..), read, message⟩

/-! ## Behind -/

/-- Where a listener stands whose messages may be interrupted. -/
inductive Stance where
  | busy
  | interrupted
  /-- stop was seen right after an interruption -/
  | stopped

namespace Stance

/-- Where a listener stands after an exchange. -/
def after : Stance → Exchange ListenerInterface → Stance
  | busy, ⟨.route .., .ok .interrupted⟩ => interrupted
  | busy, _ => busy
  | interrupted, ⟨.host .stopping, true⟩ => stopped
  | interrupted, _ => busy
  | stopped, _ => stopped

/-- After an interruption a listener looks at the stop flag, and asks for nothing more once it saw it. -/
def Permits : Stance → ListenerRequest → Prop
  | busy, _ => True
  | interrupted, r => r = .host .stopping
  | stopped, _ => False

/-- The world of such listeners. -/
abbrev world : World ListenerInterface Stance := .watch Permits after

/-- No message was interrupted, or one was, and that is what a step says. -/
def Says (gives : Prop) (s : Stance) : Prop := s = busy ∨ s = interrupted ∧ gives

theorem keeps_busy {α : Type} {p : Program ListenerInterface α}
    (h : p.Asks fun r : ListenerRequest => ∀ d m, r ≠ .route d m) : p.Keeps world (fun _ s => s = busy) busy := by
  refine h.keeps rfl (fun _ _ hs hd => hd ▸ hs) ?_ ?_
  · rintro _ r - rfl
    exact trivial
  · rintro _ ⟨r, a⟩ _ hr rfl rfl
    cases r with
    | route d m => exact absurd rfl (hr d m)
    | _ => rfl

end Stance

open Stance

theorem keeps_send_stance {m : Message} : (l.send m).Keeps Stance.world (fun r => Says (r = .ok .stopped)) busy := by
  refine keeps_do.mpr (keeps_ask_watch.mpr ⟨trivial, fun answer => ?_⟩)
  rcases answer with (d | e) | outcome
  · simp [Stance.world, complain, after, Permits, Says]
  · refine keeps_done.mpr ?_
    dsimp only
    split <;> simp [Permits, after, Says]
  · cases outcome <;> simp [Permits, after, Says]

theorem keeps_handle_stance {log : DepositLog} :
    (l.handle log).Keeps Stance.world (fun r => Says (r = .ok .stopped)) busy := by
  unfold handle
  cases Deposit.ofLog log with
  | error f => exact .inl rfl
  | ok d =>
      refine keeps_do.mpr (keeps_record.mpr ⟨trivial, fun _ => keeps_do.mpr ?_⟩)
      have looked : (l.insist (Source.query (.handler d.resource))).Keeps Stance.world (fun _ s => s = busy) busy :=
        keeps_busy (asks_insist (fun _ _ => nofun) ⟨nofun, fun _ => trivial⟩)
      refine looked.mono ?_
      rintro (e | handler) _ rfl
      · exact .inl rfl
      · cases hk : l.handlers.find? handler with
        | none => simp [hk, complain, Permits, after, Says]
        | some kind =>
            cases hp : Payload.decode kind d.data with
            | error f => simp [hk, hp, Says]
            | ok p =>
                simp only [hk, hp]
                exact keeps_send_stance

theorem keeps_handleAll_stance :
    (l.handleAll logs).Keeps Stance.world (fun r => Says (r = .ok .stopped)) busy := by
  induction logs with
  | nil => exact .inl rfl
  | cons log logs ih =>
      refine keeps_do.mpr (keeps_stopping.mpr ⟨trivial, fun stopping => ?_⟩)
      cases stopping with
      | true => exact .inl rfl
      | false =>
          refine keeps_do.mpr (keeps_handle_stance.mono ?_)
          rintro (e | _ | _) s (rfl | ⟨rfl, said⟩)
          · exact .inl rfl
          · cases said
          · exact ih
          · cases said
          · exact .inl rfl
          · exact .inr ⟨rfl, rfl⟩

theorem keeps_poll_stance {checkpoint : Height} :
    (l.poll checkpoint).Keeps Stance.world (fun r => Says (r = .ok .stopped)) busy := by
  refine keeps_do.mpr (keeps_ask_watch.mpr ⟨trivial, fun head => ?_⟩)
  rcases head with e | head
  · exact .inl rfl
  · refine keeps_do.mpr (keeps_record.mpr ⟨trivial, fun _ => ?_⟩)
    split
    · exact .inl rfl
    · refine keeps_do.mpr (keeps_ask_watch.mpr ⟨trivial, fun logs => ?_⟩)
      rcases logs with e | logs
      · exact .inl rfl
      · refine keeps_do.mpr (keeps_handleAll_stance.mono ?_)
        rintro (e | _ | _) s (rfl | ⟨rfl, said⟩)
        · exact .inl rfl
        · cases said
        · exact (keeps_busy (asks_commit (fun _ => nofun) fun _ => nofun)).mono fun _ _ => .inl
        · cases said
        · exact .inl rfl
        · exact .inr ⟨rfl, rfl⟩

/-- How a listener ends: it saw stop after an interruption, or was not interrupted. -/
def Stance.Over (r : Result Unit) (s : Stance) : Prop := s = busy ∨ s = stopped ∧ r = .ok ()

theorem keeps_round_stance {p : Position} {s : Stance} (h : Says True s) :
    (l.round p).Keeps Stance.world (fun x s => x.elim (fun _ => Says True s) fun r => Over r s) s := by
  have looks : s.Permits (.host .stopping) := by
    rcases h with rfl | ⟨rfl, -⟩ <;> trivial
  refine keeps_do.mpr (keeps_stopping.mpr ⟨looks, fun stopping => ?_⟩)
  cases stopping with
  | true =>
      rcases h with rfl | ⟨rfl, -⟩
      · exact .inl rfl
      · exact .inr ⟨rfl, rfl⟩
  | false =>
      have busy : after s ⟨.host .stopping, false⟩ = busy := by
        rcases h with rfl | ⟨rfl, -⟩ <;> rfl
      rw [busy]
      refine keeps_do.mpr (keeps_poll_stance.mono ?_)
      rintro (e | _ | _ | _) s (rfl | ⟨rfl, said⟩)
      case error.inl =>
        dsimp only
        split
        · refine keeps_do.mpr (keeps_delay (fun _ => trivial) fun d => ?_)
          exact keeps_do.mpr (keeps_ask_watch.mpr ⟨trivial, fun _ => .inl rfl⟩)
        · exact keeps_do.mpr (keeps_do.mpr (keeps_report.mpr ⟨trivial, fun _ => .inl rfl⟩))
      case ok.idle.inl => exact keeps_do.mpr (keeps_ask_watch.mpr ⟨trivial, fun _ => .inl rfl⟩)
      case ok.advanced.inl | ok.stopped.inl => exact .inl rfl
      case ok.stopped.inr => exact .inr ⟨rfl, trivial⟩
      all_goals cases said

theorem keeps_run_stance : l.run.Keeps Stance.world Over busy := by
  have started : l.start.Keeps Stance.world (fun _ s => s = busy) busy :=
    keeps_busy (asks_start (fun _ _ => nofun) nofun fun _ => nofun)
  refine keeps_do.mpr (started.mono ?_)
  rintro (e | checkpoint) _ rfl
  · exact keeps_do.mpr (keeps_report.mpr ⟨trivial, fun _ => .inl rfl⟩)
  · exact Keeps.iterate (fun _ => Says True) (.inl rfl) fun p s => keeps_round_stance

/-- After an interrupted message a listener asks for nothing but the stop flag, and once it sees it for nothing at all. -/
theorem behind_interrupted {d : DomainId} {m : Message} {q : Program ListenerInterface (Result Unit)}
    (run : l.run.Runs (t ++ ⟨.route d m, .ok .interrupted⟩ :: u) q) :
    u = [] ∧ q.Keeps Stance.world Over interrupted ∨
      u = [⟨.host .stopping, true⟩] ∧ q.Keeps Stance.world Over stopped ∨ ∃ v, u = ⟨.host .stopping, false⟩ :: v := by
  have stands := keeps_run_stance.runs run (along_watch ..)
  have handed := keeps_run_stance.permits_of_runs run (along_watch ..) rfl
  rw [List.foldl_append, List.foldl_cons] at stands
  cases hs : t.foldl after busy with
  | interrupted => cases (hs ▸ handed : Permits interrupted _)
  | stopped => exact (hs ▸ handed : Permits stopped _).elim
  | busy =>
      rw [hs] at stands
      cases u with
      | nil => exact .inl ⟨rfl, stands⟩
      | cons x u =>
          rw [List.append_cons] at run
          have looked := keeps_run_stance.permits_of_runs run (along_watch ..) rfl
          rw [List.foldl_append, hs] at looked
          obtain ⟨_, stopping⟩ := x
          cases (looked : _ = ListenerRequest.host .stopping)
          cases stopping with
          | false => exact .inr (.inr ⟨u, rfl⟩)
          | true =>
              cases u with
              | nil => exact .inr (.inl ⟨rfl, stands⟩)
              | cons y u =>
                  rw [List.append_cons] at run
                  have asked := keeps_run_stance.permits_of_runs run (along_watch ..) rfl
                  rw [List.foldl_append, List.foldl_append, hs] at asked
                  exact (asked : False).elim

end BridgeRelay.Listener
