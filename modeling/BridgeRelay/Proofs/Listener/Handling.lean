import BridgeRelay.Listener
import BridgeRelay.Proofs.Program.World

/-!
# Handled deposits

What the trace of a listener shows of a deposit that was handled: either its handler is not configured and that was
reported, or its message was handed over once and the answer settles it.
-/

namespace BridgeRelay.Listener

/-- What a listener asked and was answered. -/
abbrev Trace : Type := List (Exchange ListenerInterface)

/-- A message that was handed over, with the answer. -/
structure Handover where
  destination : DomainId
  message : Message
  answer : Except RouteError Outcome

/-- The messages that were handed over, in order. -/
def handovers (t : Trace) : List Handover := t.filterMap fun
  | ⟨.route d m, answer⟩ => some ⟨d, m, answer⟩
  | _ => none

/-- A report was put on the channel. -/
def Reported (r : Report) (t : Trace) : Prop := ⟨.report r, ()⟩ ∈ t

/-- No deposits were asked for, so the trace belongs to one scan. -/
def WithinScan (t : Trace) : Prop := ∀ x ∈ t, ∀ first last, x.request ≠ .chain (.deposits first last)

/-- An answer after which a message need not be handed over again: any outcome but an interruption, or a failure that
another attempt cannot mend and that was reported. -/
def Settles (l : Listener) (m : Message) (t : Trace) : Except RouteError Outcome → Prop
  | .ok outcome => outcome ≠ .interrupted
  | .error (.noWriter _) =>
      Reported ⟨l.domain, .listener, .configuration (RouteError.noWriter m.destination).message⟩ t
  | .error (.delivery e) =>
      (RelayError.ofDelivery e).isRetryable = false ∧ Reported ⟨m.destination, .writer, .ofDelivery e⟩ t

/-- The deposit of a log was handled: it was dropped with a report, as its handler is not configured, or its message
was handed over exactly once, and settled. -/
def Handled (l : Listener) (log : DepositLog) (t : Trace) : Prop :=
  ∃ d handler, Deposit.ofLog log = .ok d ∧ ⟨.chain (.handler d.resource), .ok handler⟩ ∈ t ∧
    match l.handlers.find? handler with
    | none => handovers t = [] ∧ Reported ⟨l.domain, .listener, unknownHandler handler d.resource⟩ t
    | some kind => ∃ p answer, Payload.decode kind d.data = .ok p ∧
        handovers t = [⟨d.destination, l.message log d p, answer⟩] ∧ l.Settles (l.message log d p) t answer

/-- The deposits of all logs were handled, one after another. -/
def AllHandled (l : Listener) : List DepositLog → Trace → Prop
  | [], t => handovers t = []
  | log :: logs, t => ∃ u v, t = u ++ v ∧ l.Handled log u ∧ l.AllHandled logs v

/-! ## Traces in parts -/

@[simp] theorem handovers_nil : handovers [] = [] := rfl

@[simp] theorem handovers_append (t u : Trace) : handovers (t ++ u) = handovers t ++ handovers u := by
  simp [handovers]

@[simp] theorem handovers_route (d : DomainId) (m : Message) (answer : Except RouteError Outcome) (t : Trace) :
    handovers (⟨.route d m, answer⟩ :: t) = ⟨d, m, answer⟩ :: handovers t := rfl

@[simp] theorem handovers_chain (q : SourceQuery) (a : q.Answer) (t : Trace) :
    handovers (⟨.chain q, a⟩ :: t) = handovers t := rfl

@[simp] theorem handovers_host (r : HostRequest) (a : r.Answer) (t : Trace) :
    handovers (⟨.host r, a⟩ :: t) = handovers t := rfl

@[simp] theorem handovers_store (r : StoreRequest) (a : r.Answer) (t : Trace) :
    handovers (⟨.store r, a⟩ :: t) = handovers t := rfl

@[simp] theorem handovers_report (r : Report) (a : Unit) (t : Trace) :
    handovers (⟨.report r, a⟩ :: t) = handovers t := rfl

@[simp] theorem withinScan_nil : WithinScan [] := by simp [WithinScan]

@[simp] theorem withinScan_append {t u : Trace} : WithinScan (t ++ u) ↔ WithinScan t ∧ WithinScan u := by
  simp [WithinScan, or_imp, forall_and]

@[simp] theorem withinScan_cons {x : Exchange ListenerInterface} {t : Trace} :
    WithinScan (x :: t) ↔ (∀ first last, x.request ≠ .chain (.deposits first last)) ∧ WithinScan t := by
  simp [WithinScan]

theorem Reported.right {r : Report} {t : Trace} (h : Reported r t) (u : Trace) : Reported r (u ++ t) :=
  List.mem_append_right u h

theorem Settles.right {l : Listener} {m : Message} {t : Trace} {answer : Except RouteError Outcome}
    (h : l.Settles m t answer) (u : Trace) : l.Settles m (u ++ t) answer := by
  rcases answer with (_ | e) | outcome
  · exact Reported.right h u
  · exact ⟨h.1, h.2.right u⟩
  · exact h

theorem Handled.cons_host {l : Listener} {log : DepositLog} {u : Trace} {r : HostRequest} {a : r.Answer}
    (h : l.Handled log u) : l.Handled log (⟨.host r, a⟩ :: u) := by
  obtain ⟨d, handler, hd, hh, h⟩ := h
  refine ⟨d, handler, hd, List.mem_cons_of_mem _ hh, ?_⟩
  cases hk : l.handlers.find? handler with
  | none =>
      simp only [hk] at h ⊢
      exact ⟨h.1, List.mem_cons_of_mem _ h.2⟩
  | some kind =>
      simp only [hk] at h ⊢
      obtain ⟨p, answer, hp, ha, hs⟩ := h
      exact ⟨p, answer, hp, ha, hs.right [_]⟩

theorem AllHandled.append {l : Listener} {logs : List DepositLog} {u v : Trace} (h : l.AllHandled logs u)
    (hv : handovers v = []) : l.AllHandled logs (u ++ v) := by
  induction logs generalizing u with
  | nil => simpa [AllHandled, hv] using h
  | cons log logs ih =>
      obtain ⟨u₁, u₂, rfl, h₁, h₂⟩ := h
      exact ⟨u₁, u₂ ++ v, List.append_assoc .., h₁, ih h₂⟩

end BridgeRelay.Listener
