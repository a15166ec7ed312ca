import BridgeRelay.Proofs.Program.Runs

/-!
# Programs in a world

A world says which requests of a program are in order, how they can be answered, and what may change meanwhile.
`Keeps` says of a program that it makes only requests that are in order, whatever the answers are. It is computed
along the program, with an invariant for each loop, and `Keeps.runs` carries it over to runs.
-/

namespace BridgeRelay

/-- The surroundings of a program, with a state of their own. -/
structure World (I : Interface) (S : Type) where
  /-- how the state may change before a request of the program -/
  drift : S → S → Prop := Eq
  /-- which requests are in order -/
  permits : S → I.Request → Prop
  /-- how a request may be answered, and the state after it -/
  reply : S → Exchange I → S → Prop

/-- The world while nothing else acts in it, whatever is asked. -/
abbrev World.alone {I : Interface} {S : Type} (W : World I S) : World I S where
  permits _ _ := True
  reply := W.reply

variable {I : Interface} {S α β σ : Type}

/-- The world that follows the exchanges of a program and lets every answer pass. -/
def World.watch (permits : S → I.Request → Prop) (after : S → Exchange I → S) : World I S where
  permits
  reply s x s' := s' = after s x

/-- The world that keeps the whole trace. -/
abbrev World.traced (permits : List (Exchange I) → I.Request → Prop) : World I (List (Exchange I)) :=
  .watch permits fun t x => t ++ [x]

/-- Through which states a world goes while it answers a program. -/
inductive World.Along (W : World I S) : S → List (Exchange I) → S → Prop where
  | nil {s : S} : W.Along s [] s
  | cons {s s₁ s₂ s' : S} {x : Exchange I} {t : List (Exchange I)} (drift : W.drift s s₁)
      (reply : W.reply s₁ x s₂) (rest : W.Along s₂ t s') : W.Along s (x :: t) s'

theorem World.Along.append {W : World I S} {s s' s'' : S} {t u : List (Exchange I)} (h : W.Along s t s')
    (h' : W.Along s' u s'') : W.Along s (t ++ u) s'' := by
  induction h with
  | nil => exact h'
  | cons drift reply _ ih => exact .cons drift reply (ih h')

theorem World.Along.of_append {W : World I S} {s s' : S} {t u : List (Exchange I)} (h : W.Along s (t ++ u) s') :
    ∃ s₁, W.Along s t s₁ ∧ W.Along s₁ u s' := by
  induction t generalizing s with
  | nil => exact ⟨s, .nil, h⟩
  | cons x t ih =>
      obtain _ | ⟨drift, reply, rest⟩ := h
      obtain ⟨s₁, first, rest⟩ := ih rest
      exact ⟨s₁, .cons drift reply first, rest⟩

theorem World.Along.world {W W' : World I S} {s s' : S} {t : List (Exchange I)} (h : W.Along s t s')
    (drift : ∀ s s', W.drift s s' → W'.drift s s') (reply : ∀ s x s', W.reply s x s' → W'.reply s x s') :
    W'.Along s t s' := by
  induction h with
  | nil => exact .nil
  | cons drifted replied _ ih => exact .cons (drift _ _ drifted) (reply _ _ _ replied) ih

namespace Program

variable {W : World I S} {p q : Program I α} {Q Q' : α → S → Prop} {s s' : S}

/-- From a state on the program makes only requests that are in order, and what it ends with meets the condition. -/
def Keeps (W : World I S) : {α : Type} → Program I α → (α → S → Prop) → S → Prop
  | _, done a, Q, s => Q a s
  | _, ask r next, Q, s => ∀ s₁, W.drift s s₁ →
      W.permits s₁ r ∧ ∀ a s₂, W.reply s₁ ⟨r, a⟩ s₂ → (next a).Keeps W Q s₂
  | _, loop (σ := σ) body st next, Q, s => ∃ inv : σ → S → Prop, inv st s ∧
      ∀ st s, inv st s → (body st).Keeps W (fun
        | .inl st, s => inv st s
        | .inr b, s => (next b).Keeps W Q s) s

/-! ## Rules -/

@[simp] theorem keeps_done {a : α} : (done a).Keeps W Q s ↔ Q a s := .rfl

@[simp] theorem keeps_pure {a : α} : (pure a : Program I α).Keeps W Q s ↔ Q a s := .rfl

theorem keeps_ask {r : I.Request} {next : I.Answer r → Program I α} :
    (ask r next).Keeps W Q s ↔ ∀ s₁, W.drift s s₁ →
      W.permits s₁ r ∧ ∀ a s₂, W.reply s₁ ⟨r, a⟩ s₂ → (next a).Keeps W Q s₂ := .rfl

theorem Keeps.mono (h : p.Keeps W Q s) (hQ : ∀ a s, Q a s → Q' a s) : p.Keeps W Q' s := by
  induction p generalizing s with
  | done a => exact hQ a s h
  | ask r next ih => exact fun s₁ hs => ⟨(h s₁ hs).1, fun a s₂ hr => ih a ((h s₁ hs).2 a s₂ hr) hQ⟩
  | loop body st next ihb ihn =>
      obtain ⟨inv, hi, hb⟩ := h
      refine ⟨inv, hi, fun st s hs => ihb st (hb st s hs) ?_⟩
      rintro (st | b) s hs
      · exact hs
      · exact ihn b hs hQ

@[simp] theorem keeps_bind {f : α → Program I β} {Q : β → S → Prop} :
    (p.bind f).Keeps W Q s ↔ p.Keeps W (fun a s => (f a).Keeps W Q s) s := by
  induction p generalizing s with
  | done a => exact .rfl
  | ask r next ih => simp only [Program.bind, keeps_ask, ih]
  | loop body st next _ ih => simp only [Program.bind, Keeps, ih]

@[simp] theorem keeps_do {f : α → Program I β} {Q : β → S → Prop} :
    (p >>= f).Keeps W Q s ↔ p.Keeps W (fun a s => (f a).Keeps W Q s) s := keeps_bind

@[simp] theorem keeps_map {f : α → β} {Q : β → S → Prop} :
    (f <$> p).Keeps W Q s ↔ p.Keeps W (fun a s => Q (f a) s) s := keeps_bind

/-- A loop keeps what each round keeps. -/
theorem Keeps.iterate {body : σ → Program I (σ ⊕ β)} {st : σ} {Q : β → S → Prop} (inv : σ → S → Prop)
    (hi : inv st s)
    (hb : ∀ st s, inv st s → (body st).Keeps W (fun x s => x.elim (fun st => inv st s) fun b => Q b s) s) :
    (iterate st body).Keeps W Q s := by
  refine ⟨inv, hi, fun st s hs => (hb st s hs).mono ?_⟩
  rintro (st | b) s hs <;> exact hs

@[simp] theorem keeps_ask_watch {permits : S → I.Request → Prop} {after : S → Exchange I → S} {r : I.Request}
    {next : I.Answer r → Program I α} :
    (ask r next).Keeps (.watch permits after) Q s ↔
      permits s r ∧ ∀ a, (next a).Keeps (.watch permits after) Q (after s ⟨r, a⟩) := by
  simp [keeps_ask, World.watch]

@[simp] theorem keeps_ask_traced {permits : List (Exchange I) → I.Request → Prop} {t : List (Exchange I)}
    {Q : α → List (Exchange I) → Prop} {r : I.Request} {next : I.Answer r → Program I α} :
    (ask r next).Keeps (.traced permits) Q t ↔
      permits t r ∧ ∀ a, (next a).Keeps (.traced permits) Q (t ++ [⟨r, a⟩]) := keeps_ask_watch

/-- Nothing is lost when the state drifts. -/
theorem Keeps.drift (hr : ∀ s, W.drift s s) (ht : ∀ s₁ s₂ s₃, W.drift s₁ s₂ → W.drift s₂ s₃ → W.drift s₁ s₃)
    (hQ : ∀ a s s', Q a s → W.drift s s' → Q a s') (h : p.Keeps W Q s) (hd : W.drift s s') : p.Keeps W Q s' := by
  induction p generalizing s s' with
  | done a => exact hQ a s s' h hd
  | ask r next _ => exact fun s₁ hs => h s₁ (ht _ _ _ hd hs)
  | loop body st next ihb ihn =>
      obtain ⟨inv, hi, hb⟩ := h
      refine ⟨fun st s' => ∃ s, inv st s ∧ W.drift s s', ⟨s, hi, hd⟩, ?_⟩
      rintro st s' ⟨s, hs, hd⟩
      refine ihb st ?_ ((hb st s hs).mono ?_) hd
      · rintro (st | b) s₁ s₂ h₁ hd
        · obtain ⟨s₀, h₀, hd₀⟩ := h₁
          exact ⟨s₀, h₀, ht _ _ _ hd₀ hd⟩
        · exact ihn b hQ h₁ hd
      · rintro (st | b) s hs
        · exact ⟨s, hs, hr s⟩
        · exact hs

/-- What a program keeps to in a world it keeps to in each world that permits more and offers less. -/
theorem Keeps.world {W' : World I S} (h : p.Keeps W Q s) (drift : ∀ s s', W'.drift s s' → W.drift s s')
    (permits : ∀ s r, W.permits s r → W'.permits s r) (reply : ∀ s x s', W'.reply s x s' → W.reply s x s') :
    p.Keeps W' Q s := by
  induction p generalizing s with
  | done a => exact h
  | ask r next ih =>
      intro s₁ hs
      obtain ⟨permitted, rest⟩ := h s₁ (drift _ _ hs)
      exact ⟨permits _ _ permitted, fun a s₂ hr => ih a (rest a s₂ (reply _ _ _ hr))⟩
  | loop body st next ihb ihn =>
      obtain ⟨inv, hi, hb⟩ := h
      refine ⟨inv, hi, fun st s hs => (ihb st (hb st s hs)).mono ?_⟩
      rintro (st | b) s hs
      · exact hs
      · exact ihn b hs

/-- What the state keeps whatever is asked and answered, it has in addition when the program ends. -/
theorem Keeps.and {inv : S → Prop} (h : p.Keeps W Q s) (hi : inv s) (hd : ∀ s s', inv s → W.drift s s' → inv s')
    (hr : ∀ s x s', inv s → W.permits s x.request → W.reply s x s' → inv s') :
    p.Keeps W (fun a s => Q a s ∧ inv s) s := by
  induction p generalizing s with
  | done a => exact ⟨h, hi⟩
  | ask r next ih =>
      intro s₁ hs
      obtain ⟨permitted, rest⟩ := h s₁ hs
      exact ⟨permitted, fun a s₂ hx => ih a (rest a s₂ hx) (hr _ _ _ (hd _ _ hi hs) permitted hx)⟩
  | loop body st next ihb ihn =>
      obtain ⟨I, h₀, hb⟩ := h
      refine ⟨fun st s => I st s ∧ inv s, ⟨h₀, hi⟩, fun st s hs => (ihb st (hb st s hs.1) hs.2).mono ?_⟩
      rintro (st | b) s ⟨hs, hi⟩
      · exact ⟨hs, hi⟩
      · exact ihn b hs hi

theorem translate_bind {J : Interface} {f : (r : I.Request) → Program J (I.Answer r)} (p : Program I α)
    (g : α → Program I β) : (p.bind g).translate f = (p.translate f).bind fun a => (g a).translate f := by
  induction p with
  | done a => rfl
  | ask r next ih => simp only [Program.bind, translate, ih, bind_assoc]
  | loop body st next _ ih => simp only [Program.bind, translate, ih]

/-- What a program keeps to it keeps to as well while its requests are carried out by programs in another world, as long
as these answer as its own world does. -/
theorem Keeps.translate {J : Interface} {T : Type} {V : World J T} {f : (r : I.Request) → Program J (I.Answer r)}
    {rel : S → T → Prop} (refl : ∀ s, W.drift s s)
    (carried : ∀ s t r, rel s t → W.permits s r →
      (f r).Keeps V (fun a t => ∃ s', W.reply s ⟨r, a⟩ s' ∧ rel s' t) t)
    (h : p.Keeps W Q s) {t : T} (hs : rel s t) : (p.translate f).Keeps V (fun a t => ∃ s, Q a s ∧ rel s t) t := by
  induction p generalizing s t with
  | done a => exact ⟨s, h, hs⟩
  | ask r next ih =>
      obtain ⟨permitted, rest⟩ := h s (refl s)
      refine keeps_bind.mpr ((carried s t r hs permitted).mono ?_)
      rintro a t ⟨s', reply, hs'⟩
      exact ih a (rest a s' reply) hs'
  | loop body st next ihb ihn =>
      obtain ⟨inv, hi, hb⟩ := h
      refine ⟨fun st t => ∃ s, inv st s ∧ rel s t, ⟨s, hi, hs⟩, ?_⟩
      rintro st t ⟨s, hi, hs⟩
      refine (ihb st (hb st s hi) hs).mono ?_
      rintro (st | b) t ⟨s, h, hs⟩
      · exact ⟨s, h, hs⟩
      · exact ihn b h hs

/-! ## Results -/

/-- Whatever the answers are, the program ends with such a value, if it ends. -/
abbrev Gives (p : Program I α) (P : α → Prop) : Prop :=
  p.Keeps (.watch (fun (_ : Unit) _ => True) fun _ _ => ()) (fun a _ => P a) ()

/-- What every value of a program meets, the one with which it ends in a world meets too. -/
theorem Keeps.and_gives {P : α → Prop} (h : p.Keeps W Q s) (hp : p.Gives P) :
    p.Keeps W (fun a s => Q a s ∧ P a) s := by
  induction p generalizing s with
  | done a => exact ⟨h, hp⟩
  | ask r next ih =>
      intro s₁ hs
      obtain ⟨permitted, rest⟩ := h s₁ hs
      exact ⟨permitted, fun a s₂ hr => ih a (rest a s₂ hr) ((hp () rfl).2 a () rfl)⟩
  | loop body st next ihb ihn =>
      obtain ⟨inv, hi, hb⟩ := h
      obtain ⟨inv', hi', hb'⟩ := hp
      refine ⟨fun st s => inv st s ∧ inv' st (), ⟨hi, hi'⟩, fun st s hs => ?_⟩
      refine (ihb st (hb st s hs.1) (P := Sum.elim (inv' · ()) fun b => (next b).Gives P)
        ((hb' st () hs.2).mono ?_)).mono ?_
      · rintro (st | b) _ hx <;> exact hx
      · rintro (st | b) s ⟨hx, hx'⟩
        · exact ⟨hx, hx'⟩
        · exact ihn b hx hx'

/-! ## Programs of few requests -/

variable {ok ok' : I.Request → Prop}

/-- The program makes only such requests, whatever the answers are. -/
def Asks (ok : I.Request → Prop) : {α : Type} → Program I α → Prop
  | _, done _ => True
  | _, ask r next => ok r ∧ ∀ a, (next a).Asks ok
  | _, loop body _ next => (∀ st, (body st).Asks ok) ∧ ∀ b, (next b).Asks ok

theorem Asks.bind {f : α → Program I β} (h : p.Asks ok) (hf : ∀ a, (f a).Asks ok) : (p.bind f).Asks ok := by
  induction p with
  | done a => exact hf a
  | ask r next ih => exact ⟨h.1, fun a => ih a (h.2 a) hf⟩
  | loop body st next _ ih => exact ⟨h.1, fun b => ih b (h.2 b) hf⟩

theorem Asks.mono (h : p.Asks ok) (hok : ∀ r, ok r → ok' r) : p.Asks ok' := by
  induction p with
  | done a => trivial
  | ask r next ih => exact ⟨hok r h.1, fun a => ih a (h.2 a)⟩
  | loop body st next ihb ihn => exact ⟨fun st => ihb st (h.1 st), fun b => ihn b (h.2 b)⟩

theorem Asks.iterate {body : σ → Program I (σ ⊕ β)} {st : σ} (h : ∀ st, (body st).Asks ok) :
    (Program.iterate st body).Asks ok := ⟨h, fun _ => trivial⟩

/-- What requests of a kind neither need nor touch is as before when a program of such requests ends. -/
theorem Asks.keeps (h : p.Asks ok) {inv : S → Prop} (hi : inv s)
    (hd : ∀ s s', inv s → W.drift s s' → inv s') (hp : ∀ s r, ok r → inv s → W.permits s r)
    (hr : ∀ s x s', ok x.request → inv s → W.reply s x s' → inv s') : p.Keeps W (fun _ s => inv s) s := by
  induction p generalizing s with
  | done a => exact hi
  | ask r next ih =>
      exact fun s₁ hs => ⟨hp _ _ h.1 (hd _ _ hi hs), fun a s₂ hx => ih a (h.2 a) (hr _ _ _ h.1 (hd _ _ hi hs) hx)⟩
  | loop body st next ihb ihn =>
      refine ⟨fun _ s => inv s, hi, fun st s hs => (ihb st (h.1 st) hs).mono ?_⟩
      rintro (st | b) s hs
      · exact hs
      · exact ihn b (h.2 b) hs

/-- A program of requests of a kind keeps, in a world where these are the only ones in order, to what it keeps to. -/
theorem Keeps.and_asks (h : p.Keeps W Q s) (ha : p.Asks ok) :
    p.Keeps { W with permits := fun s r => W.permits s r ∧ ok r } Q s := by
  induction p generalizing s with
  | done a => exact h
  | ask r next ih =>
      intro s₁ hs
      obtain ⟨permitted, rest⟩ := h s₁ hs
      exact ⟨⟨permitted, ha.1⟩, fun a s₂ hr => ih a (rest a s₂ hr) (ha.2 a)⟩
  | loop body st next ihb ihn =>
      obtain ⟨inv, hi, hb⟩ := h
      refine ⟨inv, hi, fun st s hs => (ihb st (hb st s hs) (ha.1 st)).mono ?_⟩
      rintro (st | b) s hs
      · exact hs
      · exact ihn b hs (ha.2 b)

/-! ## Steps -/

theorem Keeps.of_silent (h : p.Keeps W Q s) (hp : p.head = .silent q) : q.Keeps W Q s := by
  cases p with
  | done a => simp [head] at hp
  | ask r next => simp [head] at hp
  | loop body st next =>
      simp only [head, Head.silent.injEq] at hp
      subst hp
      obtain ⟨inv, hi, hb⟩ := h
      refine keeps_bind.mpr ((hb st s hi).mono ?_)
      rintro (st | b) s hs
      · exact ⟨inv, hs, hb⟩
      · exact hs

theorem Keeps.of_ask {r : I.Request} {next : I.Answer r → Program I α} (h : p.Keeps W Q s)
    (hp : p.head = .ask r next) (hd : W.drift s s') :
    W.permits s' r ∧ ∀ a s₂, W.reply s' ⟨r, a⟩ s₂ → (next a).Keeps W Q s₂ := by
  cases p with
  | done a => simp [head] at hp
  | ask r next =>
      simp only [head, Head.ask.injEq] at hp
      obtain ⟨rfl, hp⟩ := hp
      cases hp
      exact h s' hd
  | loop body st next => simp [head] at hp

/-! ## Runs -/

/-- A run leads from a program that keeps to the world to one that does. -/
theorem Keeps.runs {t : List (Exchange I)} (h : p.Keeps W Q s) (hr : p.Runs t q) (hw : W.Along s t s') :
    q.Keeps W Q s' := by
  induction hr generalizing s with
  | stay => cases hw; exact h
  | ask hp _ ih =>
      obtain _ | ⟨hd, hx, hw⟩ := hw
      exact ih ((h.of_ask hp hd).2 _ _ hx) hw
  | silent hp _ ih => exact ih (h.of_silent hp) hw

/-- Each request of a run is in order in the state in which it is made. -/
theorem Keeps.permits_of_runs {x : Exchange I} {t u : List (Exchange I)} (h : p.Keeps W Q s)
    (hr : p.Runs (t ++ x :: u) q) {s₁ s₂ : S} (hw : W.Along s t s₁) (hd : W.drift s₁ s₂) :
    W.permits s₂ x.request := by
  generalize ht : t ++ x :: u = v at hr
  induction hr generalizing s t with
  | stay => simp at ht
  | ask hp _ ih =>
      cases hw with
      | nil =>
          simp only [List.nil_append, List.cons.injEq] at ht
          rw [ht.1]
          exact (h.of_ask hp hd).1
      | cons hd' hx hw =>
          simp only [List.cons_append, List.cons.injEq] at ht
          obtain ⟨rfl, ht⟩ := ht
          exact ih ((h.of_ask hp hd').2 _ _ hx) hw ht
  | silent hp _ ih => exact ih (h.of_silent hp) hw ht

/-- What the state keeps whatever is asked and answered, it has throughout a run. -/
theorem Keeps.inv_of_runs {t : List (Exchange I)} {inv : S → Prop} (h : p.Keeps W Q s) (hr : p.Runs t q)
    (hw : W.Along s t s') (hi : inv s) (hd : ∀ s s', inv s → W.drift s s' → inv s')
    (hx : ∀ s x s', inv s → W.permits s x.request → W.reply s x s' → inv s') : inv s' := by
  induction hr generalizing s with
  | stay => cases hw; exact hi
  | ask hp _ ih =>
      obtain _ | ⟨drift, reply, hw⟩ := hw
      obtain ⟨permitted, rest⟩ := h.of_ask hp drift
      exact ih (rest _ _ reply) hw (hx _ _ _ (hd _ _ hi drift) permitted reply)
  | silent hp _ ih => exact ih (h.of_silent hp) hw hi

/-- A run goes along some states of a world in which every answer to a request that is in order is possible. -/
theorem Keeps.exists_along {t : List (Exchange I)} (h : p.Keeps W Q s) (hr : p.Runs t q) (hd : ∀ s, W.drift s s)
    (total : ∀ s r a, W.permits s r → ∃ s', W.reply s ⟨r, a⟩ s') : ∃ s', W.Along s t s' := by
  induction hr generalizing s with
  | stay => exact ⟨s, .nil⟩
  | ask hp _ ih =>
      obtain ⟨permitted, rest⟩ := h.of_ask hp (hd s)
      obtain ⟨s₂, hx⟩ := total _ _ _ permitted
      obtain ⟨s', hw⟩ := ih (rest _ _ hx)
      exact ⟨s', .cons (hd s) hx hw⟩
  | silent hp _ ih => exact ih (h.of_silent hp)

theorem along_watch {permits : S → I.Request → Prop} {after : S → Exchange I → S} (s : S) (t : List (Exchange I)) :
    (World.watch permits after).Along s t (t.foldl after s) := by
  induction t generalizing s with
  | nil => exact .nil
  | cons x t ih => exact .cons rfl rfl (ih _)

theorem along_traced {permits : List (Exchange I) → I.Request → Prop} (t u : List (Exchange I)) :
    (World.traced permits).Along t u (t ++ u) := by
  induction u generalizing t with
  | nil => rw [List.append_nil]; exact .nil
  | cons x u ih => exact .cons rfl rfl (by simpa using ih (t ++ [x]))

theorem Asks.runs {t : List (Exchange I)} (h : p.Asks ok) (hr : p.Runs t q) : ∀ x ∈ t, ok x.request := by
  have hk : p.Keeps (.watch (fun (_ : Unit) r => ok r) fun _ _ => ()) (fun _ _ => True) () :=
    h.keeps trivial (fun _ _ _ _ => trivial) (fun _ _ hr _ => hr) fun _ _ _ _ _ _ => trivial
  intro x hx
  obtain ⟨u, v, rfl⟩ := List.append_of_mem hx
  exact hk.permits_of_runs hr (along_watch () u) rfl

section Traced

variable {permits : List (Exchange I) → I.Request → Prop} {Q : α → List (Exchange I) → Prop}
  {t u : List (Exchange I)} {x : Exchange I} {a : α}

theorem Keeps.permits_traced (h : p.Keeps (.traced permits) Q []) (hr : p.Runs (t ++ x :: u) q) :
    permits t x.request :=
  h.permits_of_runs hr (along_traced [] t) rfl

theorem Keeps.done_traced (h : p.Keeps (.traced permits) Q []) (hr : p.Runs t (done a)) : Q a t :=
  h.runs hr (along_traced [] t)

end Traced

end Program

end BridgeRelay
