import BridgeRelay.Program

/-!
# Runs

What a program does with the answers that it gets. A run may break off anywhere, so a process that is killed has a
run too.
-/

namespace BridgeRelay.Program

variable {I : Interface} {α β : Type}

/-! ## First steps -/

/-- What two programs in a row do first. -/
def Head.bind (f : α → Program I β) : Head I α → Head I β
  | .done a => (f a).head
  | .ask r next => .ask r fun a => (next a).bind f
  | .silent p => .silent (p.bind f)

theorem head_bind (p : Program I α) (f : α → Program I β) : (p.bind f).head = p.head.bind f := by
  cases p with
  | done a => rfl
  | ask r next => rfl
  | loop body s next =>
      simp only [Program.bind, head, Head.bind, bind_assoc, Head.silent.injEq]
      congr 1
      funext x
      cases x <;> rfl

theorem eq_done_of_head {p : Program I α} {a : α} (h : p.head = .done a) : p = .done a := by
  cases p with
  | done b => simpa [head] using h
  | ask r next => simp [head] at h
  | loop body s next => simp [head] at h

/-! ## Runs -/

/-- With the answers in the trace, the first program makes the requests in the trace, and is then the second. -/
inductive Runs : Program I α → List (Exchange I) → Program I α → Prop where
  | stay {p : Program I α} : Runs p [] p
  | ask {p q : Program I α} {r : I.Request} {next : I.Answer r → Program I α} {a : I.Answer r}
      {t : List (Exchange I)} (h : p.head = .ask r next) (rest : Runs (next a) t q) : Runs p (⟨r, a⟩ :: t) q
  | silent {p p' q : Program I α} {t : List (Exchange I)} (h : p.head = .silent p') (rest : Runs p' t q) :
      Runs p t q

namespace Runs

variable {p q r : Program I α} {t u : List (Exchange I)}

theorem trans (h : p.Runs t q) (h' : q.Runs u r) : p.Runs (t ++ u) r := by
  induction h with
  | stay => exact h'
  | ask hp _ ih => exact .ask hp (ih h')
  | silent hp _ ih => exact .silent hp (ih h')

theorem bind (f : α → Program I β) (h : p.Runs t q) : (p.bind f).Runs t (q.bind f) := by
  induction h with
  | stay => exact .stay
  | ask hp _ ih => exact .ask (by rw [head_bind, hp]; rfl) ih
  | silent hp _ ih => exact .silent (by rw [head_bind, hp]; rfl) ih

theorem of_done {a : α} (h : (done a : Program I α).Runs t q) : t = [] ∧ q = done a := by
  cases h with
  | stay => exact ⟨rfl, rfl⟩
  | ask hp _ => simp [head] at hp
  | silent hp _ => simp [head] at hp

theorem of_request {r : I.Request} {a : I.Answer r} (h : (request r).Runs t (done a)) : t = [⟨r, a⟩] := by
  cases h with
  | silent hp _ => cases hp
  | ask hp rest =>
      cases hp
      obtain ⟨rfl, ha⟩ := rest.of_done
      cases ha
      rfl

/-- Two programs in a row run within the first, or to the end of the first and then in the second. -/
theorem of_bind {f : α → Program I β} {q : Program I β} (h : (p.bind f).Runs t q) :
    (∃ p', p.Runs t p' ∧ q = p'.bind f) ∨
      ∃ a u v, p.Runs u (done a) ∧ (f a).Runs v q ∧ t = u ++ v := by
  generalize hb : p.bind f = b at h
  induction h generalizing p with
  | stay => exact .inl ⟨p, .stay, hb.symm⟩
  | ask hp rest ih =>
      subst hb
      rw [head_bind] at hp
      cases hh : p.head with
      | done a =>
          rw [hh] at hp
          cases eq_done_of_head hh
          exact .inr ⟨a, [], _, .stay, .ask hp rest, rfl⟩
      | ask r next =>
          simp only [hh, Head.bind, Head.ask.injEq] at hp
          obtain ⟨rfl, hp⟩ := hp
          cases hp
          rcases ih rfl with ⟨p', hr, hq⟩ | ⟨a, u, v, hu, hv, ht⟩
          · exact .inl ⟨p', .ask hh hr, hq⟩
          · exact .inr ⟨a, _ :: u, v, .ask hh hu, hv, by rw [ht]; rfl⟩
      | silent p' => simp [hh, Head.bind] at hp
  | silent hp rest ih =>
      subst hb
      rw [head_bind] at hp
      cases hh : p.head with
      | done a =>
          rw [hh] at hp
          cases eq_done_of_head hh
          exact .inr ⟨a, [], _, .stay, .silent hp rest, rfl⟩
      | ask r next => simp [hh, Head.bind] at hp
      | silent p' =>
          simp only [hh, Head.bind, Head.silent.injEq] at hp
          rcases ih hp with ⟨p'', hr, hq⟩ | ⟨a, u, v, hu, hv, ht⟩
          · exact .inl ⟨p'', .silent hh hr, hq⟩
          · exact .inr ⟨a, u, v, .silent hh hu, hv, ht⟩

/-- Two programs in a row run to the end within the one and then the other. -/
theorem of_bind_done {f : α → Program I β} {b : β} (h : (p.bind f).Runs t (done b)) :
    ∃ a u v, t = u ++ v ∧ p.Runs u (done a) ∧ (f a).Runs v (done b) := by
  rcases h.of_bind with ⟨p', hr, hq⟩ | ⟨a, u, v, hu, hv, rfl⟩
  · cases p' with
    | done a => exact ⟨a, t, [], (List.append_nil t).symm, hr, hq ▸ .stay⟩
    | ask r next => cases hq
    | loop body s next => cases hq
  · exact ⟨a, u, v, rfl, hu, hv⟩

end Runs

end BridgeRelay.Program
