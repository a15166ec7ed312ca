import BridgeRelay.Proofs.Program.Progress

/-!
# Runs of translated programs

A program whose requests are carried out by other programs runs in calls: behind each of its own exchanges is a complete
run of the program that carries out the request, and the last call may be unfinished.
-/

namespace BridgeRelay.Program

variable {I J : Interface} {ε α β : Type} {f : (r : I.Request) → Program J (I.Answer r)} {g : ε → Exchange J}

/-- An exchange with the entries behind it. -/
structure Call (I : Interface) (ε : Type) where
  exchange : Exchange I
  entries : List ε

/-- The entries are a complete run of the program that carries out the request. -/
def Call.Carried (f : (r : I.Request) → Program J (I.Answer r)) (g : ε → Exchange J) (c : Call I ε) : Prop :=
  (f c.exchange.request).Runs (c.entries.map g) (done c.exchange.answer)

/-- Where a translated program stands: between two requests of the original one, or within a program that carries one
out, some of which has run. -/
inductive Stands (f : (r : I.Request) → Program J (I.Answer r)) : Program I α → List (Exchange J) → Program J α → Prop where
  | between (p : Program I α) : Stands f p [] (p.translate f)
  | within {p : Program I α} {r : I.Request} {next : I.Answer r → Program I α} {t : List (Exchange J)}
      {p' : Program J (I.Answer r)} (hp : p.head = .ask r next) (run : (f r).Runs t p') (unfinished : ∀ a, p' ≠ done a) :
      Stands f p t (p'.bind fun a => (next a).translate f)

/-- A run read as calls, and what has been asked for the next one. -/
structure Reads (f : (r : I.Request) → Program J (I.Answer r)) (g : ε → Exchange J) (p : Program I α) (t : List ε)
    (q : Program J α) (calls : List (Call I ε)) (rest : List ε) : Prop where
  split : t = calls.flatMap Call.entries ++ rest
  carried : ∀ c ∈ calls, c.Carried f g
  stands : ∃ p', p.Runs (calls.map Call.exchange) p' ∧ Stands f p' (rest.map g) q

namespace Reads

variable {p p' : Program I α} {q q' : Program J α} {t u rest : List ε} {calls calls' : List (Call I ε)}

theorem start : Reads f g p [] (p.translate f) [] [] := ⟨rfl, nofun, p, .stay, .between p⟩

/-- A reading goes on where the calls of another end. -/
theorem after (carried : ∀ c ∈ calls, c.Carried f g) (run : p.Runs (calls.map Call.exchange) p')
    (h : Reads f g p' u q calls' rest) : Reads f g p (calls.flatMap Call.entries ++ u) q (calls ++ calls') rest := by
  obtain ⟨split, carried', p'', run', stands⟩ := h
  refine ⟨by simp [split], fun c hc => ?_, p'', ?_, stands⟩
  · exact (List.mem_append.mp hc).elim (carried c) (carried' c)
  · simpa using run.trans run'

/-- One call first. -/
theorem call {r : I.Request} {a : I.Answer r} {next : I.Answer r → Program I α} (hp : p.head = .ask r next)
    (run : (f r).Runs (t.map g) (done a)) (h : Reads f g (next a) u q calls rest) :
    Reads f g p (t ++ u) q (⟨⟨r, a⟩, t⟩ :: calls) rest := by
  have carried : ∀ c ∈ [(⟨⟨r, a⟩, t⟩ : Call I ε)], c.Carried f g := fun c hc => List.mem_singleton.mp hc ▸ run
  simpa using after carried (.ask hp .stay) h

theorem within {r : I.Request} {next : I.Answer r → Program I α} {p' : Program J (I.Answer r)}
    (hp : p.head = .ask r next) (run : (f r).Runs (t.map g) p') :
    ∃ calls rest, Reads f g p t (p'.bind fun a => (next a).translate f) calls rest := by
  by_cases ended : ∃ a, p' = done a
  · obtain ⟨a, rfl⟩ := ended
    exact ⟨_, _, by simpa using call (u := []) hp run start⟩
  · exact ⟨[], t, rfl, nofun, p, .stay, .within hp run fun a ha => ended ⟨a, ha⟩⟩

/-! ## Steps -/

theorem between_ask {r : J.Request} {next : J.Answer r → Program J α} {a : J.Answer r} {e : ε}
    (hq : (p.translate f).head = .ask r next) (he : g e = ⟨r, a⟩) :
    ∃ calls rest, Reads f g p [e] (next a) calls rest := by
  induction p with
  | done b => cases hq
  | loop body st rest _ _ => cases hq
  | ask r' rest ih =>
      simp only [translate, head_bind] at hq
      cases hf : (f r').head with
      | done b =>
          rw [hf] at hq
          obtain ⟨calls, more, h⟩ := ih b hq
          exact ⟨_, _, call (t := []) rfl (eq_done_of_head hf ▸ .stay) h⟩
      | ask r'' next' =>
          rw [hf] at hq
          cases hq
          refine within (t := [e]) rfl ?_
          rw [List.map_singleton, he]
          exact .ask hf .stay
      | silent p' =>
          rw [hf] at hq
          cases hq

theorem between_silent (hq : (p.translate f).head = .silent q') : ∃ calls rest, Reads f g p [] q' calls rest := by
  induction p with
  | done b => cases hq
  | loop body st rest _ _ =>
      obtain ⟨p', hp⟩ : ∃ p', (loop body st rest).head = .silent p' := ⟨_, rfl⟩
      cases (head_translate (f := f) hp).symm.trans hq
      exact ⟨[], [], rfl, nofun, p', .silent hp .stay, .between p'⟩
  | ask r' rest ih =>
      simp only [translate, head_bind] at hq
      cases hf : (f r').head with
      | done b =>
          rw [hf] at hq
          obtain ⟨calls, more, h⟩ := ih b hq
          exact ⟨_, _, call (t := []) rfl (eq_done_of_head hf ▸ .stay) h⟩
      | ask r'' next' =>
          rw [hf] at hq
          cases hq
      | silent p' =>
          rw [hf] at hq
          cases hq
          exact within (t := []) rfl (.silent hf .stay)

/-- A run that can be read can be read one exchange further. -/
theorem ask {r : J.Request} {next : J.Answer r → Program J α} {a : J.Answer r} {e : ε}
    (h : Reads f g p t q calls rest) (hq : q.head = .ask r next) (he : g e = ⟨r, a⟩) :
    ∃ calls rest, Reads f g p (t ++ [e]) (next a) calls rest := by
  obtain ⟨rfl, carried, p', run, stands⟩ := h
  generalize hr : rest.map g = made at stands
  cases stands with
  | between =>
      cases List.map_eq_nil_iff.mp hr
      obtain ⟨more, rest, h⟩ := between_ask hq he
      exact ⟨_, _, by simpa using after carried run h⟩
  | @within r' next' _ p'' hp within unfinished =>
      rw [head_bind] at hq
      cases hh : p''.head with
      | done b => exact absurd (eq_done_of_head hh) (unfinished b)
      | ask r'' next'' =>
          rw [hh] at hq
          cases hq
          have further : (f r').Runs ((rest ++ [e]).map g) (next'' a) := by
            rw [List.map_append, List.map_singleton, he, hr]
            exact within.trans (.ask hh .stay)
          obtain ⟨more, rest, h⟩ := Reads.within hp further
          exact ⟨_, _, by simpa using after carried run h⟩
      | silent _ =>
          rw [hh] at hq
          cases hq

theorem silent (h : Reads f g p t q calls rest) (hq : q.head = .silent q') : ∃ calls rest, Reads f g p t q' calls rest := by
  obtain ⟨rfl, carried, p', run, stands⟩ := h
  generalize hr : rest.map g = made at stands
  cases stands with
  | between =>
      cases List.map_eq_nil_iff.mp hr
      obtain ⟨more, rest, h⟩ := between_silent hq
      exact ⟨_, _, by simpa using after carried run h⟩
  | @within r' next' _ p'' hp within unfinished =>
      rw [head_bind] at hq
      cases hh : p''.head with
      | done b => exact absurd (eq_done_of_head hh) (unfinished b)
      | ask r'' next'' =>
          rw [hh] at hq
          cases hq
      | silent p₁ =>
          rw [hh] at hq
          cases hq
          have further : (f r').Runs (rest.map g) p₁ := by
            rw [hr]
            simpa using within.trans (.silent hh .stay)
          obtain ⟨more, rest, h⟩ := Reads.within hp further
          exact ⟨_, _, by simpa using after carried run h⟩

/-! ## Runs -/

theorem go_on {u : List ε} (h : Reads f g p t q calls rest) (run : q.Runs (u.map g) q') :
    ∃ calls rest, Reads f g p (t ++ u) q' calls rest := by
  generalize hu : u.map g = made at run
  induction run generalizing t u calls rest with
  | stay =>
      cases List.map_eq_nil_iff.mp hu
      exact ⟨calls, rest, by simpa using h⟩
  | ask hq _ ih =>
      obtain ⟨e, u, rfl, he, hu⟩ := List.map_eq_cons_iff.mp hu
      obtain ⟨calls, rest, h⟩ := h.ask hq he
      simpa using ih h hu
  | silent hq _ ih =>
      obtain ⟨calls, rest, h⟩ := h.silent hq
      exact ih h hu

/-- Each run of a translated program can be read. -/
theorem of_runs (run : (p.translate f).Runs (t.map g) q) : ∃ calls rest, Reads f g p t q calls rest := by
  simpa using start.go_on run

theorem ended {a : α} (h : p.translate f = done a) :
    ∃ calls : List (Call I ε), (∀ c ∈ calls, c.entries = [] ∧ c.Carried f g) ∧ p.Runs (calls.map Call.exchange) (done a) := by
  induction p with
  | done b =>
      cases h
      exact ⟨[], nofun, .stay⟩
  | loop body st rest _ _ => cases h
  | ask r rest ih =>
      simp only [translate] at h
      cases hf : f r with
      | done b =>
          rw [hf] at h
          obtain ⟨calls, carried, run⟩ := ih b h
          refine ⟨⟨⟨r, b⟩, []⟩ :: calls, List.forall_mem_cons.mpr ⟨⟨rfl, ?_⟩, carried⟩, .ask rfl run⟩
          exact (show (f r).Runs [] (done b) from hf ▸ .stay)
      | ask _ _ =>
          rw [hf] at h
          cases h
      | loop _ _ _ =>
          rw [hf] at h
          cases h

end Reads

/-- A run of a translated program to its end is a run of the original to its end, in complete calls. -/
theorem Runs.of_translate_done {p : Program I α} {t : List ε} {a : α} (run : (p.translate f).Runs (t.map g) (done a)) :
    ∃ calls : List (Call I ε), t = calls.flatMap Call.entries ∧ (∀ c ∈ calls, c.Carried f g) ∧
      p.Runs (calls.map Call.exchange) (done a) := by
  obtain ⟨calls, rest, split, carried, p', run, stands⟩ := Reads.of_runs run
  generalize hr : rest.map g = made at stands
  generalize hq : done a = q at stands
  cases stands with
  | between =>
      cases List.map_eq_nil_iff.mp hr
      obtain ⟨more, empty, run'⟩ := Reads.ended (g := g) hq.symm
      refine ⟨calls ++ more, ?_, ?_, by simpa using run.trans run'⟩
      · have nothing : more.flatMap Call.entries = [] := List.flatMap_eq_nil_iff.mpr fun c hc => (empty c hc).1
        simp [split, nothing]
      · exact fun c hc => (List.mem_append.mp hc).elim (carried c) fun hc => (empty c hc).2
  | @within r next _ p'' _ _ unfinished =>
      cases p'' with
      | done b => exact absurd rfl (unfinished b)
      | ask _ _ => cases hq
      | loop _ _ _ => cases hq

/-- A run of a program in complete calls is a run of the translated one. -/
theorem Runs.translate {p q : Program I α} {calls : List (Call I ε)} (carried : ∀ c ∈ calls, c.Carried f g)
    (run : p.Runs (calls.map Call.exchange) q) : (p.translate f).Runs ((calls.flatMap Call.entries).map g) (q.translate f) := by
  generalize made : calls.map Call.exchange = t at run
  induction run generalizing calls with
  | stay =>
      cases List.map_eq_nil_iff.mp made
      exact .stay
  | @ask p q r next a t hp _ ih =>
      obtain ⟨c, calls, rfl, asked, rfl⟩ := List.map_eq_cons_iff.mp made
      obtain ⟨first, later⟩ := List.forall_mem_cons.mp carried
      unfold Call.Carried at first
      rw [asked] at first
      have begins : p.translate f = (f r).bind fun a => (next a).translate f := by
        cases p with
        | ask => cases hp; rfl
        | _ => cases hp
      rw [begins, List.flatMap_cons, List.map_append]
      exact (first.bind _).trans (ih later rfl)
  | silent hp _ ih => exact .silent (head_translate hp) (ih carried made)

/-- A translated program asks what the programs that carry out its requests ask. -/
theorem Asks.translate {ok : I.Request → Prop} {ok' : J.Request → Prop} {p : Program I α} (h : p.Asks ok)
    (carried : ∀ r, ok r → (f r).Asks ok') : (p.translate f).Asks ok' := by
  induction p with
  | done a => trivial
  | ask r next ih => exact Asks.bind (carried r h.1) fun a => ih a (h.2 a)
  | loop body st next ihb ihn => exact ⟨fun st => ihb st (h.1 st), fun b => ihn b (h.2 b)⟩

end BridgeRelay.Program
