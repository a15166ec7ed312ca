import BridgeRelay.Proofs.Program.Endings

/-!
# Programs that get somewhere

`Attains` says of a program that in a world it gets to a goal, whatever the answers are. `Leads` says how it gets from one
place to another when it goes on alone. The second follows from the first, also for a program whose requests are carried
out by other programs, as long as these get to their answers.
-/

namespace BridgeRelay.Program

variable {I : Interface} {S α β : Type} {W : World I S} {p q q' : Program I α} {s s' s'' : S}

/-! ## Goals -/

/-- From a state on the program is answered and gets to a goal. -/
inductive Attains (W : World I S) (goal : Program I α → S → Prop) : Program I α → S → Prop where
  | reached {p : Program I α} {s : S} (h : goal p s) : Attains W goal p s
  | ask {p : Program I α} {r : I.Request} {next : I.Answer r → Program I α} {s : S} (h : p.head = .ask r next)
      (answered : ∀ s₁, W.drift s s₁ → ∃ a s₂, W.reply s₁ ⟨r, a⟩ s₂)
      (rest : ∀ s₁ a s₂, W.drift s s₁ → W.reply s₁ ⟨r, a⟩ s₂ → Attains W goal (next a) s₂) : Attains W goal p s
  | silent {p p' : Program I α} {s : S} (h : p.head = .silent p') (rest : Attains W goal p' s) : Attains W goal p s

/-- A program that ends gets to its end. -/
theorem Ends.attains {Q : α → S → Prop} (h : p.Ends W Q s) :
    p.Attains W (fun p s => ∃ a, p = .done a ∧ Q a s) s := by
  induction h with
  | done h => exact .reached ⟨_, rfl, h⟩
  | ask hp answered _ ih => exact .ask hp answered ih
  | silent hp _ ih => exact .silent hp ih

/-- From a first goal, which lies in the first of two programs in a row, they get to a second one. -/
theorem Attains.bind {f : α → Program I β} {goal : Program I α → S → Prop} {goal' : Program I β → S → Prop}
    (h : p.Attains W goal s) (next : ∀ p s, goal p s → (p.bind f).Attains W goal' s) : (p.bind f).Attains W goal' s := by
  induction h with
  | reached h => exact next _ _ h
  | ask hp answered _ ih => exact .ask (by rw [head_bind, hp]; rfl) answered ih
  | silent hp _ ih => exact .silent (by rw [head_bind, hp]; rfl) ih

theorem Attains.mono {goal goal' : Program I α → S → Prop} (h : p.Attains W goal s)
    (hg : ∀ p s, goal p s → goal' p s) : p.Attains W goal' s := by
  induction h with
  | reached h => exact .reached (hg _ _ h)
  | ask hp answered _ ih => exact .ask hp answered ih
  | silent hp _ ih => exact .silent hp ih

/-- After a program that ends, the next one gets to the goal from there. -/
theorem Ends.attains_bind {f : α → Program I β} {goal : Program I β → S → Prop}
    (h : p.Ends W (fun a s => (f a).Attains W goal s) s) : (p.bind f).Attains W goal s := by
  refine h.attains.bind ?_
  rintro _ s ⟨a, rfl, h⟩
  exact h

/-- A program that gets to where it ends comes to its end. -/
theorem Attains.ends {goal : Program I α → S → Prop} {Q : α → S → Prop} (h : p.Attains W goal s)
    (hg : ∀ p s, goal p s → p.Ends W Q s) : p.Ends W Q s := by
  induction h with
  | reached h => exact hg _ _ h
  | ask hp answered _ ih => exact .ask hp answered ih
  | silent hp _ ih => exact .silent hp ih

/-- A program that ends in a world also does in one that answers the same requests, but in fewer ways, and it ends with
what it keeps to there. -/
theorem Ends.keeping {V : World I S} {Q Q' : α → S → Prop} (h : p.Ends W Q s) (hk : p.Keeps V Q' s)
    (drift : ∀ s s', V.drift s s' → W.drift s s') (reply : ∀ s x s', V.reply s x s' → W.reply s x s')
    (answered : ∀ s r, V.permits s r → (∃ a s', W.reply s ⟨r, a⟩ s') → ∃ a s', V.reply s ⟨r, a⟩ s') :
    p.Ends V Q' s := by
  induction h with
  | done => exact .done hk
  | @ask p r next s hp answers _ ih =>
      refine .ask hp (fun s₁ hd => answered s₁ r (hk.of_ask hp hd).1 (answers s₁ (drift _ _ hd))) fun s₁ a s₂ hd hx => ?_
      exact ih s₁ a s₂ (drift _ _ hd) (reply _ _ _ hx) ((hk.of_ask hp hd).2 a s₂ hx)
  | silent hp _ ih => exact .silent hp (ih (hk.of_silent hp))

/-! ## Ways -/

/-- Alone in a world the program can go on until it is the second, and the world is then in the second state. -/
def Leads (W : World I S) (p : Program I α) (s : S) (q : Program I α) (s' : S) : Prop :=
  ∃ t, p.Runs t q ∧ W.alone.Along s t s'

namespace Leads

theorem refl : p.Leads W s p s := ⟨[], .stay, .nil⟩

theorem trans (h : p.Leads W s q s') (h' : q.Leads W s' q' s'') : p.Leads W s q' s'' := by
  obtain ⟨t, runs, along⟩ := h
  obtain ⟨u, runs', along'⟩ := h'
  exact ⟨t ++ u, runs.trans runs', along.append along'⟩

theorem silent (hp : p.head = .silent q) : p.Leads W s q s := ⟨[], .silent hp .stay, .nil⟩

theorem ask {r : I.Request} {next : I.Answer r → Program I α} {a : I.Answer r} (hp : p.head = .ask r next)
    (reply : W.reply s ⟨r, a⟩ s') : p.Leads W s (next a) s' := ⟨[⟨r, a⟩], .ask hp .stay, .cons rfl reply .nil⟩

theorem bind (f : α → Program I β) (h : p.Leads W s q s') : (p.bind f).Leads W s (q.bind f) s' := by
  obtain ⟨t, runs, along⟩ := h
  exact ⟨t, runs.bind f, along⟩

end Leads

/-- On its way alone a program keeps to a world in which the others act too. -/
theorem Keeps.leads {V : World I S} {Q : α → S → Prop} (h : p.Keeps V Q s) (refl : ∀ s, V.drift s s)
    (reply : ∀ s x s', W.reply s x s' → V.reply s x s') (way : p.Leads W s q s') : q.Keeps V Q s' := by
  obtain ⟨t, runs, along⟩ := way
  refine h.runs runs (along.world ?_ reply)
  rintro s _ rfl
  exact refl s

/-! ## Carried out by other programs -/

variable {J : Interface} {R T : Type} {U : World I R} {V : World J T} {f : (r : I.Request) → Program J (I.Answer r)}

theorem head_translate {p' : Program I α} (hp : p.head = .silent p') :
    (p.translate f).head = .silent (p'.translate f) := by
  cases p with
  | done a => cases hp
  | ask r next => cases hp
  | loop body st next =>
      cases hp
      rw [translate_bind]
      refine congrArg (fun g => Head.silent (Program.bind ((body st).translate f) g)) (funext fun x => ?_)
      cases x <;> rfl

/-- A program that gets to a goal and keeps to a second world gets there as well while its requests are carried out by
programs in a third one, if these get to an answer to each request that is in order. -/
theorem Attains.leads {goal : Program I α → S → Prop} {Q : α → R → Prop} {rel : S → R → T → Prop} {u : R} {t : T}
    (refl : ∀ s, W.drift s s) (refl' : ∀ u, U.drift u u)
    (carried : ∀ s u t r, rel s u t → U.permits u r → (∃ a s', W.reply s ⟨r, a⟩ s') → ∃ a s' u' t',
      W.reply s ⟨r, a⟩ s' ∧ U.reply u ⟨r, a⟩ u' ∧ rel s' u' t' ∧ (f r).Leads V t (.done a) t')
    (h : p.Attains W goal s) (hk : p.Keeps U Q u) (hr : rel s u t) : ∃ q s' u' t',
      goal q s' ∧ q.Keeps U Q u' ∧ rel s' u' t' ∧ (p.translate f).Leads V t (q.translate f) t' := by
  induction h generalizing u t with
  | reached h => exact ⟨_, _, _, _, h, hk, hr, .refl⟩
  | @ask p r next s hp answered _ ih =>
      obtain ⟨permitted, rest⟩ := hk.of_ask hp (refl' u)
      obtain ⟨a, s₁, u₁, t₁, reply, reply', hr', first⟩ := carried s u t r hr permitted (answered s (refl s))
      obtain ⟨q, s', u', t', reached, kept, hr', later⟩ := ih s a s₁ (refl s) reply (rest a u₁ reply') hr'
      have begins : (p.translate f) = (f r).bind fun a => (next a).translate f := by
        cases p with
        | ask => cases hp; rfl
        | _ => cases hp
      rw [begins]
      exact ⟨q, s', u', t', reached, kept, hr', (first.bind _).trans later⟩
  | silent hp _ ih =>
      obtain ⟨q, s', u', t', reached, kept, hr', later⟩ := ih (hk.of_silent hp) hr
      exact ⟨q, s', u', t', reached, kept, hr', (Leads.silent (head_translate hp)).trans later⟩

/-- A program that ends does so as well while its requests are carried out by other programs. -/
theorem Ends.leads {Q : α → S → Prop} {Q' : α → R → Prop} {rel : S → R → T → Prop} {u : R} {t : T}
    (refl : ∀ s, W.drift s s) (refl' : ∀ u, U.drift u u)
    (carried : ∀ s u t r, rel s u t → U.permits u r → (∃ a s', W.reply s ⟨r, a⟩ s') → ∃ a s' u' t',
      W.reply s ⟨r, a⟩ s' ∧ U.reply u ⟨r, a⟩ u' ∧ rel s' u' t' ∧ (f r).Leads V t (.done a) t')
    (h : p.Ends W Q s) (hk : p.Keeps U Q' u) (hr : rel s u t) : ∃ a s' u' t',
      Q a s' ∧ Q' a u' ∧ rel s' u' t' ∧ (p.translate f).Leads V t (.done a) t' := by
  obtain ⟨_, s', u', t', ⟨a, rfl, hQ⟩, kept, hr', way⟩ := h.attains.leads refl refl' carried hk hr
  exact ⟨a, s', u', t', hQ, kept, hr', way⟩

end BridgeRelay.Program
