import BridgeRelay.Listener
import BridgeRelay.Proofs.Program.World

/-!
# Requests of a listener

What a listener keeps to while it asks its host and reads from its chain.
-/

namespace BridgeRelay

/-- Counts nothing. -/
def HostRequest.IsQuiet : HostRequest → Prop
  | .record _ => False
  | _ => True

namespace Listener

open Program

/-! ## Reads in any world -/

section

variable {S α : Type} {W : World ListenerInterface S} {l : Listener} {s : S} {inv : S → Prop}
  (host : ∀ s (r : HostRequest), r.IsQuiet → inv s →
    (Hosted.host r : Program ListenerInterface r.Answer).Keeps W (fun _ s => inv s) s)
include host

theorem keeps_delay_in {failures : Nat} (hs : inv s) : (l.delay failures).Keeps W (fun _ s => inv s) s := by
  unfold delay
  cases l.backoff.backoff failures with
  | ok d => exact hs
  | error fault => exact keeps_bind.mpr ((host s (.abort fault) trivial hs).mono fun e => nomatch e)

/-- What a failed read keeps up holds when the first answer comes, or when the listener gives up. -/
theorem keeps_insist_in {q : Program ListenerInterface (Except ChainError α)} {Q : Result α → S → Prop} (hi : inv s)
    (hq : ∀ s, inv s → q.Keeps W (fun
      | .ok b, s => Q (.ok b) s
      | .error _, s => inv s) s)
    (he : ∀ e s, inv s → Q (.error (.ofChain e)) s) : (l.insist q).Keeps W Q s := by
  refine Keeps.iterate (fun _ s => inv s) hi fun failures s hs => keeps_do.mpr ((hq s hs).mono ?_)
  rintro (e | b) s hs
  · dsimp only at hs ⊢
    split
    · refine keeps_do.mpr ((host s .stopping trivial hs).mono fun stopping s hs => ?_)
      cases stopping with
      | true => exact he e s hs
      | false =>
          refine keeps_do.mpr ((keeps_delay_in host hs).mono fun d s hs => ?_)
          exact keeps_do.mpr (host s (.sleep d) trivial hs)
    · exact he e s hs
  · exact hs

end

/-! ## In a world that watches -/

variable {S α : Type} {permits : S → ListenerRequest → Prop} {after : S → Exchange ListenerInterface → S} {s : S}

@[simp] theorem keeps_stopping {Q : Bool → S → Prop} :
    (Host.stopping : Program ListenerInterface Bool).Keeps (.watch permits after) Q s ↔
      permits s (.host .stopping) ∧ ∀ b : Bool, Q b (after s ⟨.host .stopping, b⟩) := keeps_ask_watch

@[simp] theorem keeps_sleep {d : Duration} {Q : Unit → S → Prop} :
    (Host.sleep d : Program ListenerInterface Unit).Keeps (.watch permits after) Q s ↔
      permits s (.host (.sleep d)) ∧ ∀ a : Unit, Q a (after s ⟨.host (.sleep d), a⟩) := keeps_ask_watch

@[simp] theorem keeps_record {u : Metrics.Update} {Q : Unit → S → Prop} :
    (Host.record u : Program ListenerInterface Unit).Keeps (.watch permits after) Q s ↔
      permits s (.host (.record u)) ∧ ∀ a : Unit, Q a (after s ⟨.host (.record u), a⟩) := keeps_ask_watch

@[simp] theorem keeps_report {r : Report} {Q : Unit → S → Prop} :
    (Source.report r).Keeps (.watch permits after) Q s ↔
      permits s (.report r) ∧ ∀ a : Unit, Q a (after s ⟨.report r, a⟩) := keeps_ask_watch

@[simp] theorem keeps_get {d : DomainId} {Q : Except StoreError Height → S → Prop} :
    (Checkpoint.get d : Program ListenerInterface _).Keeps (.watch permits after) Q s ↔
      permits s (.store (.load (Checkpoint.key d))) ∧ ∀ loaded : Except StoreError (Option Bytes),
        Q (loaded.bind (Checkpoint.decode d)) (after s ⟨.store (.load (Checkpoint.key d)), loaded⟩) := by
  refine keeps_do.trans (keeps_ask_watch.trans (and_congr_right fun _ => forall_congr' fun loaded => ?_))
  cases loaded <;> exact .rfl

/-- A delay that cannot be slept ends the listener, so what follows may count on any delay. -/
theorem keeps_delay {l : Listener} {failures : Nat} {Q : Duration → S → Prop}
    (hp : ∀ fault, permits s (.host (.abort fault))) (hQ : ∀ d, Q d s) :
    (l.delay failures).Keeps (.watch permits after) Q s := by
  unfold delay
  cases l.backoff.backoff failures with
  | ok d => exact hQ d
  | error fault => exact keeps_bind.mpr (keeps_ask_watch.mpr ⟨hp fault, fun e : Empty => nomatch e⟩)

/-- A read that is repeated ends with an answer, with a failure that does not pass, or with one after which the stop
flag was seen. -/
theorem keeps_insist_cases {l : Listener} {q : Program ListenerInterface (Except ChainError α)}
    {Q : Result α → S → Prop} (inv : S → Prop) (hi : inv s)
    (hp : ∀ s r, inv s → permits s (.host r)) (ha : ∀ s r a, inv s → inv (after s ⟨.host r, a⟩))
    (hq : ∀ s, inv s → q.Keeps (.watch permits after) (fun
      | .ok b, s => Q (.ok b) s
      | .error e, s => inv s ∧ if (RelayError.ofChain e).isRetryable
          then Q (.error (.ofChain e)) (after s ⟨.host .stopping, true⟩) else Q (.error (.ofChain e)) s) s) :
    (l.insist q).Keeps (.watch permits after) Q s := by
  refine Keeps.iterate (fun _ s => inv s) hi fun failures s hs => keeps_do.mpr ((hq s hs).mono ?_)
  rintro (e | b) s h
  · obtain ⟨hs, h⟩ := h
    dsimp only
    split
    · next retryable =>
        refine keeps_do.mpr (keeps_stopping.mpr ⟨hp _ _ hs, fun stopping => ?_⟩)
        have hs' := ha s .stopping stopping hs
        cases stopping with
        | true => exact (if_pos retryable).mp h
        | false =>
            refine keeps_do.mpr (keeps_delay (fun fault => hp _ _ hs') fun d => ?_)
            exact keeps_do.mpr (keeps_sleep.mpr ⟨hp _ _ hs', fun a => ha _ (.sleep d) a hs'⟩)
    · next final => exact (if_neg final).mp h
  · exact h

theorem keeps_insist {l : Listener} {q : Program ListenerInterface (Except ChainError α)}
    {Q : Result α → S → Prop} (inv : S → Prop) (hi : inv s)
    (hp : ∀ s r, inv s → permits s (.host r)) (ha : ∀ s r a, inv s → inv (after s ⟨.host r, a⟩))
    (hq : ∀ s, inv s → q.Keeps (.watch permits after) (fun a s => inv s ∧ ∀ b, a = .ok b → Q (.ok b) s) s)
    (he : ∀ e s, inv s → Q (.error (.ofChain e)) s) : (l.insist q).Keeps (.watch permits after) Q s := by
  refine keeps_insist_cases inv hi hp ha fun s hs => (hq s hs).mono ?_
  rintro (e | b) s ⟨hs, hb⟩
  · refine ⟨hs, ?_⟩
    split
    · exact he e _ (ha s .stopping true hs)
    · exact he e s hs
  · exact hb b rfl

end Listener

end BridgeRelay
