import BridgeRelay.Proofs.Program.Translation
import BridgeRelay.Proofs.Relay.Crew
import BridgeRelay.Proofs.Writer.Runs

/-!
# Histories of listeners

The history of a listener of a relay, read as the calls of its own program: each is one exchange with the outside, or the
write of a message. When the listener has ended, its exit follows.
-/

namespace BridgeRelay

open Program

/-! ## Writes -/

/-- An exchange of a writer as one of the relay. -/
def Writer.placed (k : Nat) : Exchange WriterInterface → Exchange RelayInterface
  | ⟨.chain q, a⟩ => ⟨.destination k q, a⟩
  | ⟨.host r, a⟩ => ⟨.host r, a⟩
  | ⟨.takeNonce, a⟩ => ⟨.takeNonce k, a⟩
  | ⟨.giveNonce next, a⟩ => ⟨.giveNonce k next, a⟩
  | ⟨.enter, a⟩ => ⟨.enter k, a⟩
  | ⟨.leave, a⟩ => ⟨.leave k, a⟩

namespace Writer

variable {k k' : Nat} {x : Exchange WriterInterface} {α : Type} {p p' : Program WriterInterface α}

theorem eq_enter_of_placed (h : placed k x = ⟨.enter k', ()⟩) : k' = k ∧ x = ⟨.enter, ()⟩ := by
  rcases x with ⟨_ | _ | _ | _ | _ | _, _⟩ <;> cases h
  exact ⟨rfl, rfl⟩

theorem eq_chain_of_placed {q : DestinationQuery} (h : (placed k x).request = .destination k' q) :
    x.request = .chain q := by
  rcases x with ⟨_ | _ | _ | _ | _ | _, _⟩ <;> cases h
  rfl

theorem head_place_ask {r : WriterRequest} {next : r.Answer → Program WriterInterface α} (h : p.head = .ask r next)
    (a : r.Answer) : ∃ r' next' a', (place k p).head = .ask r' next' ∧ placed k ⟨r, a⟩ = ⟨r', a'⟩ ∧ next' a' = place k (next a) := by
  cases p with
  | done _ => cases h
  | loop _ _ _ => cases h
  | ask r next =>
      cases h
      cases r
      all_goals exact ⟨_, _, _, rfl, rfl, rfl⟩

/-- What a writer asks is asked at its place. -/
theorem runs_place {t : Trace} (h : p.Runs t p') : (place k p).Runs (t.map (placed k)) (place k p') := by
  induction h with
  | stay => exact .stay
  | @ask p q r next a t hp _ ih =>
      obtain ⟨r', next', a', head, same, rest⟩ := head_place_ask (k := k) hp a
      rw [List.map_cons, same]
      exact .ask head (rest ▸ ih)
  | silent hp _ ih => exact .silent (head_translate hp) ih

/-- What is asked at the place of a writer is asked by the writer. -/
theorem runs_of_place {t : List (Exchange RelayInterface)} {q : Program RelayInterface α} (h : (place k p).Runs t q) :
    ∃ u p', p.Runs u p' ∧ t = u.map (placed k) ∧ q = place k p' := by
  generalize hb : place k p = b at h
  induction h generalizing p with
  | stay => exact ⟨[], p, .stay, rfl, hb.symm⟩
  | ask hq _ ih =>
      subst hb
      cases p with
      | done _ => cases hq
      | loop _ _ _ => cases hq
      | ask r next =>
          cases r
          all_goals
            cases hq
            obtain ⟨u, p', run, rfl, rfl⟩ := ih rfl
            exact ⟨⟨_, _⟩ :: u, p', .ask rfl run, rfl, rfl⟩
  | silent hq _ ih =>
      subst hb
      cases p with
      | done _ => cases hq
      | ask r next => cases r <;> cases hq
      | loop body st next =>
          obtain ⟨p₁, hp⟩ : ∃ p₁, (loop body st next).head = .silent p₁ := ⟨_, rfl⟩
          have head : (place k (loop body st next)).head = .silent (place k p₁) := head_translate hp
          cases head.symm.trans hq
          obtain ⟨u, p', run, rfl, rfl⟩ := ih rfl
          exact ⟨u, p', .silent hp run, rfl, rfl⟩

end Writer

namespace Relay

variable {routes : Routes (Nat × Writer)} {d : DomainId} {m : Message}

/-- The answer to a routed message. -/
def routed : Writer.Result Outcome → Except RouteError Outcome
  | .ok outcome => .ok outcome
  | .error e => .error (.delivery e)

theorem routed_eq_ok {result : Writer.Result Outcome} {outcome : Outcome} (h : routed result = .ok outcome) :
    result = .ok outcome := by
  cases result with
  | ok => cases h; rfl
  | error => cases h

theorem route_of_some {k : Nat} {w : Writer} (found : routes.find? d = some (k, w)) :
    route routes d m = (Writer.place k (w.write m)).bind fun result => .done (routed result) := by
  simp only [route, found]
  refine congrArg (Program.bind _) (funext fun result => ?_)
  cases result <;> rfl

/-- A message is routed by the writer of its destination, if there is one. -/
theorem runs_route {t : List (Exchange RelayInterface)} {q : Program RelayInterface (Except RouteError Outcome)}
    (h : (route routes d m).Runs t q) : t = [] ∧ q = done (.error (.noWriter d)) ∨
      ∃ k w u p, routes.find? d = some (k, w) ∧ (w.write m).Runs u p ∧ t = u.map (Writer.placed k) ∧
        q = (Writer.place k p).bind fun result => .done (routed result) := by
  cases found : routes.find? d with
  | none =>
      simp only [route, found] at h
      exact .inl h.of_done
  | some entry =>
      obtain ⟨k, w⟩ := entry
      rw [route_of_some found] at h
      refine .inr ⟨k, w, ?_⟩
      obtain ⟨_, run, rfl⟩ | ⟨result, u, v, run, stopped, rfl⟩ := h.of_bind
      · obtain ⟨u, p, written, rfl, rfl⟩ := Writer.runs_of_place run
        exact ⟨u, p, rfl, written, rfl, rfl⟩
      · obtain ⟨rfl, rfl⟩ := stopped.of_done
        obtain ⟨u, p, written, rfl, ended⟩ := Writer.runs_of_place run
        exact ⟨u, p, rfl, written, List.append_nil _, by rw [← ended]; rfl⟩

/-! ## Listeners -/

variable {r : Relay} {P : Crew r} {i : Fin r.chains.length}

/-- What carries out a listener's requests. -/
abbrev carry (r : Relay) (i : Fin r.chains.length) : (q : ListenerRequest) → Program RelayInterface q.Answer :=
  Listener.relayed i (route r.routes)

/-- A listener says that it has ended. -/
def farewell (d : DomainId) (result : Listener.Result Unit) : Program RelayInterface (List Halted) :=
  .ask (.exit d result) fun _ => .done []

theorem work_listener : r.work (some i) = ((r.listener i).run.translate (r.carry i)).bind (farewell (r.listener i).domain) :=
  bind_assoc ..

/-- The history of a listener as calls, of which the last may be unfinished, and its exit. -/
inductive Reading (P : Crew r) (i : Fin r.chains.length) :
    List (Call ListenerInterface (Entry r)) → List (Entry r) → List (Entry r) → Prop where
  | running {calls : List (Call ListenerInterface (Entry r))} {rest : List (Entry r)}
      {q : Program RelayInterface (Listener.Result Unit)}
      (reads : Reads (r.carry i) Entry.exchange (r.listener i).run (P.state.own (some i)) q calls rest)
      (program : P.programs (some i) = q.bind (farewell (r.listener i).domain)) : Reading P i calls rest []
  | ended {calls : List (Call ListenerInterface (Entry r))} {result : Listener.Result Unit} {e : Entry r}
      (own : P.state.own (some i) = calls.flatMap Call.entries ++ [e])
      (carried : ∀ c ∈ calls, c.Carried (r.carry i) Entry.exchange)
      (run : (r.listener i).run.Runs (calls.map Call.exchange) (done result))
      (exit : e.exchange = ⟨.exit (r.listener i).domain result, ()⟩)
      (program : P.programs (some i) = done []) : Reading P i calls [] [e]

variable {calls : List (Call ListenerInterface (Entry r))} {rest gone : List (Entry r)}

/-- Only the request to route a message is carried out by more than one request. -/
theorem unfinished_route {q : ListenerRequest} {t : List (Exchange RelayInterface)} {p : Program RelayInterface q.Answer}
    (run : (r.carry i q).Runs t p) (unfinished : ∀ a, p ≠ done a) : t = [] ∨ ∃ d m, q = .route d m := by
  cases q with
  | route d m => exact .inr ⟨d, m, rfl⟩
  | _ =>
      cases run with
      | stay => exact .inl rfl
      | silent hp _ => cases hp
      | ask hp rest =>
          cases hp
          exact absurd rest.of_done.2 (unfinished _)

theorem Reading.own_eq (h : Reading P i calls rest gone) :
    P.state.own (some i) = calls.flatMap Call.entries ++ rest ++ gone := by
  cases h with
  | running reads _ => rw [List.append_nil, reads.split]
  | ended own => rw [List.append_nil, own]

theorem Reading.carried (h : Reading P i calls rest gone) : ∀ c ∈ calls, c.Carried (r.carry i) Entry.exchange := by
  cases h with
  | running reads _ => exact reads.carried
  | ended _ carried => exact carried

/-- The listener makes the calls. -/
theorem Reading.run (h : Reading P i calls rest gone) : ∃ p, (r.listener i).run.Runs (calls.map Call.exchange) p := by
  cases h with
  | running reads _ => exact ⟨_, reads.stands.choose_spec.1⟩
  | ended _ _ run => exact ⟨_, run⟩

theorem eq_farewell {d : DomainId} {result : Listener.Result Unit} {q : Program RelayInterface (List Halted)}
    (h : (farewell d result).Runs [] q) : q = farewell d result := by
  generalize ht : ([] : List (Exchange RelayInterface)) = t at h
  cases h with
  | stay => rfl
  | silent hp _ => cases hp
  | ask _ _ => cases ht

theorem runs_farewell {d : DomainId} {result : Listener.Result Unit} {x : Exchange RelayInterface}
    {t : List (Exchange RelayInterface)} {q : Program RelayInterface (List Halted)} (h : (farewell d result).Runs (x :: t) q) :
    x = ⟨.exit d result, ()⟩ ∧ t = [] ∧ q = done [] := by
  cases h with
  | silent hp _ => cases hp
  | ask hp rest =>
      cases hp
      obtain ⟨rfl, rfl⟩ := rest.of_done
      exact ⟨rfl, rfl, rfl⟩

theorem exists_reading (reached : Reaches (opening r) P) (i : Fin r.chains.length) :
    ∃ calls rest gone, Reading P i calls rest gone := by
  have run := runs_own reached (some i)
  rw [work_listener] at run
  obtain ⟨q, run, program⟩ | ⟨result, u, v, run, ending, split⟩ := run.of_bind
  · obtain ⟨calls, rest, reads⟩ := Reads.of_runs run
    exact ⟨calls, rest, [], .running reads program⟩
  · obtain ⟨t, gone, own, rfl, rfl⟩ := List.map_eq_append_iff.mp split
    cases gone with
    | nil =>
        obtain ⟨calls, rest, reads⟩ := Reads.of_runs run
        rw [← List.append_nil t, ← own] at reads
        exact ⟨calls, rest, [], .running reads (eq_farewell ending)⟩
    | cons e gone =>
        obtain ⟨exit, none, program⟩ := runs_farewell ending
        cases List.map_eq_nil_iff.mp none
        obtain ⟨calls, rfl, carried, run⟩ := Runs.of_translate_done run
        exact ⟨calls, [], [e], .ended own carried run exit program⟩

end Relay

end BridgeRelay
