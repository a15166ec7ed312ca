import BridgeRelay.Proofs.Listener.Reads

/-!
# Failures of a listener

With which errors the parts of a listener can end, whatever they are answered. Only the store fails while a checkpoint
is moved, and only the network or an event while deposits are handed over. A failed delivery is never fatal.
-/

namespace BridgeRelay

open Program

namespace RelayError

variable {e : RelayError}

theorem isFatal_ofDelivery (e : DeliveryError) : (ofDelivery e).isFatal = false := by
  rcases e with e | r | (_ | _) | (_ | _ | _ | _) <;> rfl

/-- What can go wrong while deposits are handed over: the network is in trouble, or an event is malformed. -/
def OfScan : RelayError → Prop
  | transientNetwork _ | malformedEvent _ => True
  | _ => False

theorem ofScan_ofChain (e : ChainError) : (ofChain e).OfScan := by
  cases e <;> trivial

theorem ofScan_of_isRetryable (h : e.isRetryable = true) : e.OfScan := by
  cases e with
  | transientNetwork s => trivial
  | _ => cases h

theorem OfScan.isRetryable_or_isFatal (h : e.OfScan) : e.isRetryable = true ∨ e.isFatal = true := by
  cases e with
  | transientNetwork s => exact .inl rfl
  | malformedEvent s => exact .inr rfl
  | _ => exact h.elim

end RelayError

namespace Listener

variable {l : Listener} {α : Type}

/-! ## Deposits -/

theorem gives_insist {read : Program ListenerInterface (Except ChainError α)} (hr : read.Gives fun _ => True) :
    (l.insist read).Gives fun r => ∀ e, r = .error e → e.OfScan := by
  refine keeps_insist (fun _ => True) trivial (fun _ _ _ => trivial) (fun _ _ _ _ => trivial) ?_ ?_
  · exact fun _ _ => hr.mono fun _ _ _ => ⟨trivial, nofun⟩
  · rintro e _ - _ ⟨rfl⟩
    exact RelayError.ofScan_ofChain e

theorem gives_send {m : Message} : (l.send m).Gives fun r => ∀ e, r = .error e → e.OfScan := by
  refine keeps_do.mpr (keeps_ask_watch.mpr ⟨trivial, fun answer => ?_⟩)
  rcases answer with (d | e) | outcome
  · simp [complain]
  · refine keeps_done.mpr ?_
    dsimp only
    split
    · next retryable => simpa using RelayError.ofScan_of_isRetryable retryable
    · simp
  · cases outcome <;> simp

theorem gives_handle {log : DepositLog} : (l.handle log).Gives fun r => ∀ e, r = .error e → e.OfScan := by
  unfold handle
  cases Deposit.ofLog log with
  | error f => simp [undecodable, RelayError.OfScan]
  | ok d =>
      refine keeps_do.mpr (keeps_record.mpr ⟨trivial, fun _ => keeps_do.mpr ?_⟩)
      refine (gives_insist (keeps_ask_watch.mpr ⟨trivial, fun _ => keeps_done.mpr trivial⟩)).mono ?_
      rintro (e | handler) _ h
      · simpa using h
      · dsimp only
        cases l.handlers.find? handler with
        | none => simp [complain]
        | some t =>
            dsimp only
            cases Payload.decode t d.data with
            | error f => simp [wrongLayout, RelayError.OfScan]
            | ok p => exact gives_send

theorem gives_handleAll {logs : List DepositLog} :
    (l.handleAll logs).Gives fun r => ∀ e, r = .error e → e.OfScan := by
  induction logs with
  | nil => exact nofun
  | cons log logs ih =>
      refine keeps_do.mpr (keeps_stopping.mpr ⟨trivial, fun stopping => ?_⟩)
      cases stopping with
      | true => exact nofun
      | false =>
          refine keeps_do.mpr (gives_handle.mono ?_)
          rintro (e | (_ | _)) _ h
          · simpa using h
          · exact ih
          · exact nofun

/-! ## Windows -/

theorem gives_commit {last : Height} :
    (l.commit last).Gives fun r => ∀ e, r = .error e → ∃ text, e = .store text := by
  refine keeps_do.mpr (keeps_do.mpr (keeps_get.mpr ⟨trivial, fun loaded => ?_⟩))
  rcases loaded.bind (Checkpoint.decode l.domain) with e | stored
  · simp
  · dsimp only
    split
    · simp
    · refine keeps_ask_watch.mpr ⟨trivial, fun saved => ?_⟩
      rcases saved with e | _ <;> simp

/-- A look at the chain fails in a way that passes, or at which the chain has to halt. -/
theorem gives_poll {checkpoint : Height} : (l.poll checkpoint).Gives fun r =>
    ∀ e, r = .error e → e.isRetryable = true ∨ e.isFatal = true := by
  have failed (e : ChainError) : ∀ e', (Except.error (.ofChain e) : Result Poll) = .error e' →
      e'.isRetryable = true ∨ e'.isFatal = true := by
    rintro _ ⟨rfl⟩
    exact (RelayError.ofScan_ofChain e).isRetryable_or_isFatal
  have scanned (w : Window) : (l.scan w).Gives fun r =>
      ∀ e, r = .error e → e.isRetryable = true ∨ e.isFatal = true := by
    refine keeps_do.mpr (keeps_ask_watch.mpr ⟨trivial, fun logs => ?_⟩)
    rcases logs with e | logs
    · exact failed e
    · refine keeps_done.mpr (keeps_do.mpr (gives_handleAll.mono ?_))
      rintro (e | (_ | _)) _ h
      · rintro _ ⟨rfl⟩
        exact (h e rfl).isRetryable_or_isFatal
      · refine gives_commit.mono ?_
        intro r _ h e he
        obtain ⟨text, rfl⟩ := h e he
        exact .inr rfl
      · exact nofun
  refine keeps_do.mpr (keeps_ask_watch.mpr ⟨trivial, fun head => ?_⟩)
  rcases head with e | head
  · exact failed e
  · refine keeps_done.mpr (keeps_do.mpr (keeps_record.mpr ⟨trivial, fun _ => ?_⟩))
    split
    · exact nofun
    · exact scanned _

end Listener

end BridgeRelay
