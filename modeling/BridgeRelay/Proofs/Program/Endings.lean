import BridgeRelay.Proofs.Program.World

/-!
# Programs that end

`Ends` says of a program that in a world it always gets an answer, comes to an end whatever the answers are, and ends
with what meets a condition. Unlike `Keeps` it excludes that the program waits or goes on for ever.
-/

namespace BridgeRelay.Program

variable {I : Interface} {S α β σ : Type} {W : World I S}

/-- From a state on the program is answered and ends, with a value and in a state that meet the condition. -/
inductive Ends (W : World I S) (Q : α → S → Prop) : Program I α → S → Prop where
  | done {a : α} {s : S} (h : Q a s) : Ends W Q (done a) s
  | ask {p : Program I α} {r : I.Request} {next : I.Answer r → Program I α} {s : S} (h : p.head = .ask r next)
      (answered : ∀ s₁, W.drift s s₁ → ∃ a s₂, W.reply s₁ ⟨r, a⟩ s₂)
      (rest : ∀ s₁ a s₂, W.drift s s₁ → W.reply s₁ ⟨r, a⟩ s₂ → Ends W Q (next a) s₂) : Ends W Q p s
  | silent {p p' : Program I α} {s : S} (h : p.head = .silent p') (rest : Ends W Q p' s) : Ends W Q p s

namespace Ends

variable {p : Program I α} {Q Q' : α → S → Prop} {s s' : S} {t : List (Exchange I)} {a : α}

theorem mono (h : p.Ends W Q s) (hQ : ∀ a s, Q a s → Q' a s) : p.Ends W Q' s := by
  induction h with
  | done h => exact .done (hQ _ _ h)
  | ask hp answered _ ih => exact .ask hp answered ih
  | silent hp _ ih => exact .silent hp ih

/-- Two programs in a row end if the first does and the second does from there. -/
theorem bind {f : α → Program I β} {Q : β → S → Prop} (h : p.Ends W (fun a s => (f a).Ends W Q s) s) :
    (p.bind f).Ends W Q s := by
  induction h with
  | done h => exact h
  | ask hp answered _ ih => exact .ask (by rw [head_bind, hp]; rfl) answered ih
  | silent hp _ ih => exact .silent (by rw [head_bind, hp]; rfl) ih

/-- A loop ends if its first round does and what follows the round does. -/
theorem iterate {body : σ → Program I (σ ⊕ β)} {st : σ} {Q : β → S → Prop}
    (h : (body st).Ends W (fun x s => x.elim (fun st => (Program.iterate st body).Ends W Q s) fun b => Q b s) s) :
    (Program.iterate st body).Ends W Q s := by
  refine .silent rfl (bind (h.mono ?_))
  rintro (st | b) s hs
  · exact hs
  · exact .done hs

/-- A request in a world in which only the program acts. -/
theorem ask_still {r : I.Request} {next : I.Answer r → Program I α} (still : W.drift = Eq)
    (answered : ∃ a s', W.reply s ⟨r, a⟩ s') (rest : ∀ a s', W.reply s ⟨r, a⟩ s' → (next a).Ends W Q s') :
    (Program.ask r next).Ends W Q s := by
  refine .ask rfl (fun s₁ hd => ?_) fun s₁ a s₂ hd hx => ?_ <;> rw [still] at hd <;> subst hd
  · exact answered
  · exact rest a s₂ hx

/-! ## Inversion -/

theorem of_done (h : (Program.done a : Program I α).Ends W Q s) : Q a s := by
  cases h with
  | done h => exact h
  | ask hp _ _ => cases hp
  | silent hp _ => cases hp

theorem of_ask {r : I.Request} {next : I.Answer r → Program I α} (h : (Program.ask r next).Ends W Q s) {s₁ s₂ : S}
    {a : I.Answer r} (hd : W.drift s s₁) (hx : W.reply s₁ ⟨r, a⟩ s₂) : (next a).Ends W Q s₂ := by
  cases h with
  | ask hp _ rest =>
      cases hp
      exact rest s₁ a s₂ hd hx
  | silent hp _ => cases hp

theorem of_silent {p' : Program I α} (h : p.Ends W Q s) (hp : p.head = .silent p') : p'.Ends W Q s := by
  cases h with
  | done => cases hp
  | ask hp' _ _ => cases hp'.symm.trans hp
  | silent hp' rest =>
      cases hp'.symm.trans hp
      exact rest

/-- Of two programs in a row that end, the first keeps to whatever lets the second end. -/
theorem keeps_of_bind {f : α → Program I β} {Q : β → S → Prop} (hp : ∀ s r, W.permits s r)
    (h : (p.bind f).Ends W Q s) : p.Keeps W (fun a s => (f a).Ends W Q s) s := by
  induction p generalizing s with
  | done a => exact h
  | ask r next ih => exact fun s₁ hd => ⟨hp s₁ r, fun a s₂ hx => ih a (of_ask h hd hx)⟩
  | loop body st next ihb ihn =>
      -- a loop that ends still does after a round that does not end it
      refine ⟨fun st s => (Program.loop body st fun b => (next b).bind f).Ends W Q s, h, fun st s h => ?_⟩
      refine (ihb st (of_silent h rfl)).mono ?_
      rintro (st | b) s h
      · exact h
      · exact ihn b h

theorem keeps (h : p.Ends W Q s) (hp : ∀ s r, W.permits s r) : p.Keeps W Q s :=
  (keeps_of_bind hp ((bind_done p).symm ▸ h)).mono fun _ _ => of_done

/-! ## Runs -/

theorem of_runs (h : p.Ends W Q s) (hr : p.Runs t (Program.done a)) (hw : W.Along s t s') : Q a s' := by
  induction h generalizing t with
  | done h =>
      obtain ⟨rfl, ha⟩ := hr.of_done
      cases ha
      cases hw
      exact h
  | ask hp _ _ ih =>
      cases hr with
      | stay => simp [head] at hp
      | ask hp' rest =>
          rw [hp] at hp'
          cases hp'
          obtain _ | ⟨hd, hx, hw⟩ := hw
          exact ih _ _ _ hd hx rest hw
      | silent hp' _ =>
          rw [hp] at hp'
          cases hp'
  | silent hp _ ih =>
      cases hr with
      | stay => simp [head] at hp
      | ask hp' _ =>
          rw [hp] at hp'
          cases hp'
      | silent hp' rest =>
          rw [hp] at hp'
          cases hp'
          exact ih rest hw

theorem exists_runs (h : p.Ends W Q s) (hd : ∀ s, W.drift s s) :
    ∃ t a s', p.Runs t (Program.done a) ∧ W.Along s t s' ∧ Q a s' := by
  induction h with
  | done h => exact ⟨[], _, _, .stay, .nil, h⟩
  | @ask p r next s hp answered _ ih =>
      obtain ⟨b, s₂, hx⟩ := answered s (hd s)
      obtain ⟨t, a, s', hr, hw, hQ⟩ := ih s b s₂ (hd s) hx
      exact ⟨_, a, s', .ask hp hr, .cons (hd s) hx hw, hQ⟩
  | silent hp _ ih =>
      obtain ⟨t, a, s', hr, hw, hQ⟩ := ih
      exact ⟨t, a, s', .silent hp hr, hw, hQ⟩

end Ends

end BridgeRelay.Program
