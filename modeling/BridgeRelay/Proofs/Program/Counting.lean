import BridgeRelay.Proofs.Program.World

/-!
# Counted requests

How often a program makes requests of a kind. A bound on the requests of each part gives a bound on those of a run,
whether or not the run comes to an end.
-/

namespace BridgeRelay

variable {I : Interface} {α : Type} {kind : I.Request → Bool} {limit n : Nat}

/-- The world that counts the requests of a kind and grants as many as there are below the limit. -/
abbrev World.counting (kind : I.Request → Bool) (limit : Nat) : World I Nat :=
  .watch (fun n r => kind r → n < limit) fun n x => n + (kind x.request).toNat

namespace Program

variable {p q : Program I α} {Q : α → Nat → Prop} {t : List (Exchange I)}

theorem foldl_counting (n : Nat) (t : List (Exchange I)) :
    t.foldl (fun n x => n + (kind x.request).toNat) n = n + t.countP fun x => kind x.request := by
  induction t generalizing n with
  | nil => rfl
  | cons x t ih =>
      rw [List.foldl_cons, ih, List.countP_cons, Nat.add_assoc, Nat.add_comm (kind x.request).toNat]
      cases kind x.request <;> rfl

theorem Keeps.countP_le (h : p.Keeps (.counting kind limit) Q 0) (hr : p.Runs t q) :
    (t.countP fun x => kind x.request) ≤ limit := by
  have granted (n : Nat) (x : Exchange I) (n' : Nat) (hn : n ≤ limit) (hx : kind x.request → n < limit)
      (hn' : n' = n + (kind x.request).toNat) : n' ≤ limit := by
    cases hk : kind x.request with
    | false => simpa [hn', hk] using hn
    | true => simpa [hn', hk] using Nat.succ_le_of_lt (hx hk)
  have bounded := h.inv_of_runs hr (along_watch 0 t) (Nat.zero_le limit) (fun _ _ hn hd => hd ▸ hn) granted
  rwa [foldl_counting, Nat.zero_add] at bounded

/-- A part without requests of the kind leaves the count alone. -/
theorem Asks.keeps_counting (h : p.Asks fun r => kind r = false) :
    p.Keeps (.counting kind limit) (fun _ n' => n' = n) n := by
  refine h.keeps rfl ?_ ?_ ?_
  · rintro _ _ rfl rfl
    rfl
  · intro n r other _ hr
    exact absurd (other.symm.trans hr) nofun
  · rintro _ x _ other rfl rfl
    simp [other]

end Program

end BridgeRelay
