import BridgeRelay.Proofs.Listener.Resting
import BridgeRelay.Proofs.Program.Progress

/-!
# Listeners come to rest

A listener on a chain that stands still not only pauses at rest alone: from an empty store on it gets there, as long as no
answer of a writer holds it back.
-/

namespace BridgeRelay.Listener

open Program Devnet

variable {l : Listener} {c : SourceChain} {j j' : Journal} {α β : Type}

/-- Waits before the next look at the chain. -/
def Paused (p : Program ListenerInterface α) : Prop := ∃ d next, p.head = .ask (.host (.pause d)) next

theorem Paused.bind {p : Program ListenerInterface α} (f : α → Program ListenerInterface β) (h : Paused p) :
    Paused (p.bind f) := by
  obtain ⟨d, next, hp⟩ := h
  exact ⟨d, _, by rw [head_bind, hp]; rfl⟩

/-! ## Answers -/

/-- What can be answered can be answered so that no writer holds the listener back. -/
theorem answered_still (r : ListenerRequest) (answered : ∃ a j', (still c).world.reply j ⟨r, a⟩ j') :
    ∃ a j', (l.stillWorld c).reply j ⟨r, a⟩ j' := by
  obtain ⟨a, _, answer, -⟩ := answered
  cases r with
  | route d m => exact ⟨.ok .executed, _, trivial, nofun, rfl⟩
  | _ => exact ⟨a, _, answer, trivial, rfl⟩

/-- What ends, whatever the writers answer, ends with what it keeps to while they do not hold the listener back. -/
theorem ends_still {p : Program ListenerInterface α} {Q Q' : α → Journal → Prop} (h : p.Ends (still c).world Q j)
    (hk : p.Keeps (l.stillWorld c) Q' j) : p.Ends (l.stillWorld c) Q' j :=
  h.keeping hk (fun _ _ => id) (fun _ _ _ ⟨answers, _, after⟩ => ⟨answers, after⟩) fun _ r _ => answered_still r

/-! ## Looks at the chain -/

variable {checkpoint : Height}

theorem ends_poll_still (carried : ∀ log ∈ c.logs, ∃ m, l.Carries (still c) log m) (h : l.Scanned c checkpoint j) :
    (l.poll checkpoint).Ends (l.stillWorld c) (fun r j' =>
      r = .ok .idle ∧ l.Scanned c checkpoint j' ∧ l.AtRest c j' ∨
        ∃ next, r = .ok (.advanced next) ∧ checkpoint < next ∧ l.Scanned c next j') j := by
  refine ends_still (Q := fun _ _ => True) ?_ (keeps_poll_still carried h)
  cases window : Window.next? c.head l.confirmations checkpoint l.maxRange with
  | none =>
      refine .bind (ends_ask (.ok c.head) rfl ?_)
      rintro _ rfl
      refine .done (.bind (ends_record.mono ?_))
      rintro _ _ rfl
      simp only [still, window]
      exact .done trivial
  | some w =>
      choose! message carries using carried
      have logs : List.Forall₂ (l.Carries (still c)) ((still c).deposits w.first w.last)
          (((still c).deposits w.first w.last).map message) :=
        List.forall₂_map_right_iff.mpr (List.forall₂_same.mpr fun log hl => carries log (List.mem_filter.mp hl).1)
      obtain ⟨stored, held, ahead⟩ := h.ahead window
      refine ends_poll window ((ends_handleAll logs).mono ?_)
      rintro r _ ⟨sent, rfl, -⟩
      split
      · exact (ends_commit (j := j.send sent) held ahead).mono fun _ _ _ => trivial
      · trivial

/-! ## Rounds -/

/-- A round pauses at rest, or moves the checkpoint. -/
theorem attains_round (carried : ∀ log ∈ c.logs, ∃ m, l.Carries (still c) log m) (h : l.Scanned c checkpoint j)
    (failures : Nat) : (l.round ⟨checkpoint, failures⟩).Attains (l.stillWorld c) (fun p j =>
      Paused p ∧ l.AtRest c j ∨ ∃ next, p = .done (.inl ⟨next, 0⟩) ∧ checkpoint < next ∧ l.Scanned c next j) j := by
  refine .ask rfl ?_ ?_
  · rintro _ rfl
    exact ⟨false, j, rfl, trivial, rfl⟩
  rintro _ _ _ rfl ⟨rfl, -, rfl⟩
  refine Ends.attains_bind (.done (Ends.attains_bind ((ends_poll_still carried h).mono ?_)))
  rintro _ j' (⟨rfl, -, rest⟩ | ⟨next, rfl, further, scanned⟩)
  · exact .reached (.inl ⟨⟨_, _, rfl⟩, rest⟩)
  · exact .reached (.inr ⟨next, rfl, further, scanned⟩)

/-- From a checkpoint on the rounds come to rest, for each of them that does not rest moves the checkpoint. -/
theorem attains_rounds {checkpoint : Height} {j : Journal} (carried : ∀ log ∈ c.logs, ∃ m, l.Carries (still c) log m)
    (h : l.Scanned c checkpoint j) (failures : Nat) : (Program.iterate ⟨checkpoint, failures⟩ l.round).Attains (l.stillWorld c)
      (fun p j => Paused p ∧ l.AtRest c j) j := by
  refine .silent rfl ((attains_round carried h failures).bind ?_)
  rintro p j' (⟨paused, rest⟩ | ⟨next, rfl, further, scanned⟩)
  · exact .reached ⟨paused.bind _, rest⟩
  · exact attains_rounds carried scanned 0
termination_by UInt64.size - checkpoint.toNat
decreasing_by
  have := checkpoint.toNat_lt
  have := UInt64.lt_iff_toNat_lt.mp further
  have := next.toNat_lt
  simp only [UInt64.size]
  omega

/-! ## Main statement -/

/-- From an empty store on, a listener on a chain that stands still comes to rest, as long as no answer of a writer holds
it back. -/
theorem attains_rest (fresh : l.freshStart = false) (latest : l.latestBlock = false)
    (carried : ∀ log ∈ c.logs, ∃ m, l.Carries (still c) log m) (empty : j.held (Checkpoint.key l.domain) = none) :
    l.run.Attains (l.stillWorld c) (fun p j => Paused p ∧ l.AtRest c j) j := by
  have starts : l.start.Ends (l.stillWorld c) (fun r j' => r = .ok (max 0 l.origin) ∧ j' = j) j := by
    unfold start
    simp only [fresh, latest, Bool.false_eq_true, if_false]
    refine .bind ((ends_still ends_get keeps_get_still).mono ?_)
    rintro _ _ ⟨rfl, rfl⟩
    rw [empty]
    exact .done ⟨rfl, rfl⟩
  refine Ends.attains_bind (starts.mono ?_)
  rintro _ _ ⟨rfl, rfl⟩
  exact attains_rounds carried (scanned_of_empty empty) 0

end BridgeRelay.Listener
