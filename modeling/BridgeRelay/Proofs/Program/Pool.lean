import BridgeRelay.Proofs.Program.World
import Mathlib.Logic.Function.Basic
import Mathlib.Logic.Relation

/-!
# Pools

Programs that take turns on a shared state. Between two requests of one program any of the others may act.
-/

namespace BridgeRelay

/-- Programs with a state that they share. -/
structure Pool (ι : Type) (I : Interface) (α S : Type) where
  programs : ι → Program I α
  state : S

namespace Pool

open Program Function

variable {ι : Type} [DecidableEq ι] {I : Interface} {α S : Type} {W : ι → World I S}
  {P P' : Pool ι I α S} {i : ι}

/-- One program goes on, and its request is answered by its world. -/
inductive Step (W : ι → World I S) (P : Pool ι I α S) : Pool ι I α S → Prop where
  | silent (i : ι) {p : Program I α} (h : (P.programs i).head = .silent p) :
      Step W P ⟨update P.programs i p, P.state⟩
  | ask (i : ι) {r : I.Request} {next : I.Answer r → Program I α} {a : I.Answer r} {s : S}
      (h : (P.programs i).head = .ask r next) (reply : (W i).reply P.state ⟨r, a⟩ s) :
      Step W P ⟨update P.programs i (next a), s⟩

/-- One pool becomes another in any number of steps. -/
abbrev Reaches (W : ι → World I S) : Pool ι I α S → Pool ι I α S → Prop := Relation.ReflTransGen (Step W)

/-- What the requests of each program do to the state is, for each other program, a drift. -/
structure Fair (W : ι → World I S) : Prop where
  refl (i : ι) (s : S) : (W i).drift s s
  trans (i : ι) (s₁ s₂ s₃ : S) : (W i).drift s₁ s₂ → (W i).drift s₂ s₃ → (W i).drift s₁ s₃
  drift (i j : ι) (s s' : S) (x : Exchange I) : i ≠ j → (W j).permits s x.request → (W j).reply s x s' →
    (W i).drift s s'

/-- All programs keep to their worlds. -/
def Keeps (W : ι → World I S) (P : Pool ι I α S) : Prop :=
  ∀ i, (P.programs i).Keeps (W i) (fun _ _ => True) P.state

theorem Keeps.step (hW : Fair W) (h : P.Keeps W) (hs : Step W P P') :
    P'.Keeps W ∧ (P'.state = P.state ∨
      ∃ i x, (W i).permits P.state x.request ∧ (W i).reply P.state x P'.state) := by
  cases hs with
  | silent i hp =>
      refine ⟨fun j => ?_, .inl rfl⟩
      by_cases hj : j = i
      · subst hj
        simpa using (h j).of_silent hp
      · simpa [hj] using h j
  | ask i hp reply =>
      obtain ⟨permitted, rest⟩ := (h i).of_ask hp (hW.refl i _)
      refine ⟨fun j => ?_, .inr ⟨i, _, permitted, reply⟩⟩
      by_cases hj : j = i
      · subst hj
        simpa using rest _ _ reply
      · simpa [hj] using (h j).drift (hW.refl j) (hW.trans j) (fun _ _ _ _ _ => trivial)
          (hW.drift j i _ _ _ hj permitted reply)

/-- What requests in order preserve holds in every pool that is reached. -/
theorem Keeps.reaches (hW : Fair W) (h : P.Keeps W) {inv : S → Prop} (hi : inv P.state)
    (hinv : ∀ i s x s', (W i).permits s x.request → (W i).reply s x s' → inv s → inv s')
    (hr : Reaches W P P') : P'.Keeps W ∧ inv P'.state := by
  induction hr with
  | refl => exact ⟨h, hi⟩
  | tail _ hs ih =>
      obtain ⟨h', hi'⟩ := ih
      obtain ⟨h'', hstate | ⟨i, x, permitted, reply⟩⟩ := h'.step hW hs
      · exact ⟨h'', hstate ▸ hi'⟩
      · exact ⟨h'', hinv i _ x _ permitted reply hi'⟩

/-- A run of one program while the others wait. -/
theorem Reaches.of_runs {t : List (Exchange I)} {p q : Program I α} {s s' : S} (hr : p.Runs t q)
    (hp : P.programs i = p) (hs : P.state = s)
    (hw : (W i).alone.Along s t s') :
    Reaches W P ⟨update P.programs i q, s'⟩ := by
  induction hr generalizing P s with
  | stay =>
      cases hw
      subst hp hs
      rw [update_eq_self]
  | ask hh _ ih =>
      obtain _ | ⟨hd, hx, hw⟩ := hw
      cases hd
      subst hp hs
      have := ih (P := ⟨update P.programs i _, _⟩) (update_self ..) rfl hw
      rw [update_idem] at this
      exact .head (.ask i hh hx) this
  | silent hh _ ih =>
      subst hp hs
      have := ih (P := ⟨update P.programs i _, P.state⟩) (update_self ..) rfl hw
      rw [update_idem] at this
      exact .head (.silent i hh) this

end Pool

end BridgeRelay
