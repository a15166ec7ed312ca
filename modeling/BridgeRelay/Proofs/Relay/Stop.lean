import BridgeRelay.Proofs.Listener.Interruption
import BridgeRelay.Proofs.Relay.Readings
import BridgeRelay.Proofs.Transfer
import BridgeRelay.Proofs.Writer.Interruption

/-!
# Stopping a relay

Stop may be signalled at any moment. A write whose turn comes later begins nothing, an interrupted write has executed
nothing, and the listener whose message was interrupted leaves the window as it is and ends. Main statement:
`stop_starts_and_commits_nothing`.
-/

namespace BridgeRelay.Relay

open Program

/-! ## The flag -/

section Flag

variable {r : Relay} {s s' : House r} {w : r.Worker} {x : Exchange RelayInterface} {P : Crew r}

/-- The stop flag stays once it is set, and is told as it is. -/
structure House.Flagged (s : House r) : Prop where
  stays : s.history.Pairwise fun e e' => e.stopping = true → e'.stopping = true
  told (e : Entry r) (b : Bool) : e ∈ s.history → e.exchange = ⟨.host .stopping, b⟩ → b = e.stopping
  stands (e : Entry r) : e ∈ s.history → e.stopping = true → s.stopping = true

theorem House.Serves.told {b : Bool} (h : s.Serves ⟨.host .stopping, b⟩ s') : b = s.stopping := by
  cases h with
  | outside outside => exact outside.elim
  | stopping => rfl

theorem House.Flagged.reply (h : s.Flagged) (reply : (House.world w).reply s x s') : s'.Flagged := by
  obtain ⟨stopping, s₁, later, serves, rfl⟩ := reply
  have history : s₁.history = s.history := serves.history_eq
  have flag : s₁.stopping = stopping := serves.stopping_eq
  refine ⟨?_, fun e b he hx => ?_, fun e he set => ?_⟩
  · simpa [House.note, history, List.pairwise_append] using ⟨h.stays, fun e he set => later (h.stands e he set)⟩
  · obtain earlier | rfl : e ∈ s.history ∨ e = ⟨w, x, stopping⟩ := by simpa [House.note, history] using he
    · exact h.told e b earlier hx
    · cases (hx : x = _)
      exact serves.told
  · obtain earlier | rfl : e ∈ s.history ∨ e = ⟨w, x, stopping⟩ := by simpa [House.note, history] using he
    · exact flag.trans (later (h.stands e earlier set))
    · exact flag.trans set

theorem flagged_opening : (opening r).state.Flagged where
  stays := .nil
  told _ _ known := absurd known List.not_mem_nil
  stands _ known := absurd known List.not_mem_nil

theorem flagged_of_reaches (reached : Reaches (opening r) P) : P.state.Flagged :=
  invariant_of_reaches flagged_opening (fun _ _ _ _ reply h => h.reply reply) reached

/-- Behind an exchange that was made while the flag was set, the flag is told to be set. -/
theorem House.Flagged.told_behind (h : s.Flagged) {before after : List (Entry r)} {e e' : Entry r} {b : Bool}
    (split : s.own w = before ++ e :: after) (set : e.stopping = true) (behind : e' ∈ after)
    (asked : e'.exchange = ⟨.host .stopping, b⟩) : b = true := by
  have stays : (before ++ e :: after).Pairwise fun e e' => e.stopping = true → e'.stopping = true :=
    split ▸ h.stays.sublist List.filter_sublist
  have known : e' ∈ s.history := (List.mem_filter.mp (split ▸ by simp [behind] : e' ∈ s.own w)).1
  have later := (List.pairwise_cons.mp (List.pairwise_append.mp stays).2.1).1 e' behind set
  exact (h.told e' b known asked).trans later

end Flag

/-! ## Routing -/

section Routing

variable {routes : Routes (Nat × Writer)} {d : DomainId} {m : Message} {k : Nat} {t u : List (Exchange RelayInterface)}

/-- What is asked for a message whose turn comes when the flag is set. -/
def lateTurn (k : Nat) : List (Exchange RelayInterface) := [⟨.enter k, ()⟩, ⟨.host .stopping, true⟩, ⟨.leave k, ()⟩]

/-- A message whose turn comes when the flag is set is interrupted, and nothing else is asked. -/
theorem stopped_route {q : Program RelayInterface (Except RouteError Outcome)}
    (run : (route routes d m).Runs (t ++ ⟨.enter k, ()⟩ :: u) q) (stopping : ∀ b, ⟨.host .stopping, b⟩ ∈ u → b = true) :
    ∃ v, t ++ ⟨.enter k, ()⟩ :: u ++ v = lateTurn k ∧ q.Runs v (done (.ok .interrupted)) := by
  obtain ⟨none, -⟩ | ⟨k', w, u', p, -, written, split, rfl⟩ := runs_route run
  · simp at none
  · obtain ⟨t', rest, rfl, rfl, turn⟩ := List.map_eq_append_iff.mp split.symm
    obtain ⟨x, u', rfl, entered, rfl⟩ := List.map_eq_cons_iff.mp turn
    obtain ⟨rfl, rfl⟩ := Writer.eq_enter_of_placed entered
    cases Writer.enter_first written rfl
    obtain ⟨v, whole, on⟩ := Writer.stopped_turn written fun b asked => stopping b (List.mem_map_of_mem asked)
    have placed := congrArg (List.map (Writer.placed k)) whole
    rw [List.map_append] at placed
    exact ⟨v.map (Writer.placed k), congrArg (_ :: ·) placed, (Writer.runs_place on).bind _⟩

/-- A message is interrupted only after the flag was seen, and then its proposal was not executed. -/
theorem interrupted_route (run : (route routes d m).Runs t (done (.ok .interrupted))) :
    ⟨.host .stopping, true⟩ ∈ t ∧
      ∀ x ∈ t, ∀ k call o, x.request = .destination k (.send call o) → call.kind ≠ .execute := by
  obtain ⟨-, other⟩ | ⟨k, w, u, p, -, written, rfl, ended⟩ := runs_route run
  · cases other
  · cases p with
    | ask request next => cases request <;> cases ended
    | loop _ _ _ => cases ended
    | done result =>
        cases routed_eq_ok (Program.done.inj ended).symm
        obtain ⟨seen, unexecuted⟩ := Writer.interrupted_write written
        refine ⟨List.mem_map.mpr ⟨_, seen, rfl⟩, fun y hy k' call o asked => ?_⟩
        obtain ⟨x, hx, rfl⟩ := List.mem_map.mp hy
        have executes := unexecuted x hx
        rw [Writer.eq_chain_of_placed asked] at executes
        exact executes

end Routing

/-! ## Listeners -/

variable {r : Relay} {P : Crew r} {i : Fin r.chains.length} {calls : List (Call ListenerInterface (Entry r))}
  {es rest gone : List (Entry r)} {e : Entry r} {k : Nat} {d : DomainId} {m : Message}

/-- The call for a message, once it is answered. -/
abbrev routing (d : DomainId) (m : Message) (answer : Except RouteError Outcome) (es : List (Entry r)) :
    Call ListenerInterface (Entry r) := ⟨⟨.route d m, answer⟩, es⟩

/-- Only within a write a listener waits for a turn. -/
theorem route_of_enter {q : ListenerRequest} {p : Program RelayInterface q.Answer} {t : List (Exchange RelayInterface)}
    (run : (r.carry i q).Runs t p) (entered : ⟨.enter k, ()⟩ ∈ t) : ∃ d m, q = .route d m := by
  by_contra other
  have asks : (r.carry i q).Asks fun asked : RelayRequest => asked ≠ .enter k := by
    cases q with
    | route d m => exact absurd ⟨d, m, rfl⟩ other
    | _ => exact ⟨nofun, fun _ => trivial⟩
  exact asks.runs run _ entered rfl

/-- What has been asked within a write whose turn came when the flag was set is the beginning of a late turn, and the
write goes on with the rest of it. -/
theorem late_write {before after : List (Entry r)} {q : Program RelayInterface (Except RouteError Outcome)}
    (flagged : P.state.Flagged) (own : P.state.own (some i) = before ++ es ++ after)
    (run : (route r.routes d m).Runs (es.map Entry.exchange) q) (he : e ∈ es) (entered : e.exchange = ⟨.enter k, ()⟩)
    (set : e.stopping = true) : ∃ v, es.map Entry.exchange ++ v = lateTurn k ∧ q.Runs v (done (.ok .interrupted)) := by
  obtain ⟨front, back, rfl⟩ := List.append_of_mem he
  rw [List.map_append, List.map_cons, entered] at run ⊢
  refine stopped_route run fun b asked => ?_
  obtain ⟨e', he', asked⟩ := List.mem_map.mp asked
  have split : P.state.own (some i) = before ++ front ++ e :: (back ++ after) := by simpa using own
  exact flagged.told_behind split set (List.mem_append_left _ he') asked

/-- A worker that is answered while the others wait adds what it asks to its history. -/
theorem along_of_served {w : r.Worker} {s : House r} (mine : ∀ e ∈ es, e.worker = w)
    (stays : es.Pairwise fun e e' => e.stopping = true → e'.stopping = true)
    (since : ∀ e ∈ es, s.stopping = true → e.stopping = true)
    (served : ∀ e ∈ es, ∀ s : House r, s.stopping = e.stopping → ∃ s', s.Serves e.exchange s') :
    ∃ s', (House.world w).alone.Along s (es.map Entry.exchange) s' ∧ s'.own w = s.own w ++ es := by
  induction es generalizing s with
  | nil => exact ⟨s, .nil, (List.append_nil _).symm⟩
  | cons e es ih =>
      obtain ⟨rfl, mine⟩ := List.forall_mem_cons.mp mine
      obtain ⟨first, stays⟩ := List.pairwise_cons.mp stays
      obtain ⟨later, -⟩ := List.forall_mem_cons.mp since
      obtain ⟨serves, served⟩ := List.forall_mem_cons.mp served
      obtain ⟨s₁, serves⟩ := serves { s with stopping := e.stopping } rfl
      have flag : s₁.stopping = e.stopping := serves.stopping_eq
      have own : s₁.own e.worker = s.own e.worker := congrArg (List.filter _) serves.history_eq
      obtain ⟨s', along, own'⟩ := ih (s := s₁.note e) mine stays (fun e' he' set => first e' he' (flag.symm.trans set)) served
      refine ⟨s', .cons rfl ⟨e.stopping, s₁, later, serves, rfl⟩ along, ?_⟩
      rw [own', House.own_note, if_pos rfl, own, List.append_assoc, List.singleton_append]

/-- Once stop is signalled the house answers what a late turn asks. -/
theorem along_late {w : r.Worker} {v : List (Exchange RelayInterface)} (late : ∀ x ∈ v, x ∈ lateTurn k) (s : House r) :
    ∃ s' more, more.map Entry.exchange = v ∧ (House.world w).alone.Along s v s' ∧ s'.own w = s.own w ++ more := by
  let more : List (Entry r) := v.map fun x => ⟨w, x, true⟩
  have told : more.map Entry.exchange = v := List.map_map.trans (List.map_id v)
  have flags : ∀ e ∈ more, e.stopping = true := by simp [more]
  have served : ∀ e ∈ more, ∀ s : House r, s.stopping = e.stopping → ∃ s', s.Serves e.exchange s' := by
    intro e he s flag
    rw [flags e he] at flag
    have turn := late e.exchange (told ▸ List.mem_map_of_mem he)
    obtain ⟨w, x, stopping⟩ := e
    simp only [lateTurn, List.mem_cons, List.not_mem_nil, or_false] at turn
    rcases turn with rfl | rfl | rfl
    · exact ⟨s, .outside trivial⟩
    · exact ⟨s, flag ▸ .stopping⟩
    · exact ⟨s, .outside trivial⟩
  have stays : more.Pairwise fun e e' => e.stopping = true → e'.stopping = true :=
    List.pairwise_of_forall_mem_list fun _ _ e' he' _ => flags e' he'
  obtain ⟨s', along, own⟩ := along_of_served (w := w) (s := s) (by simp [more]) stays (fun e he _ => flags e he) served
  exact ⟨s', more, told, told ▸ along, own⟩

/-- A write whose turn came when the flag was set can go on, and is interrupted then. -/
theorem late_write_goes_on (reached : Reaches (opening r) P) (reading : Reading P i calls rest gone) (he : e ∈ rest)
    (entered : e.exchange = ⟨.enter k, ()⟩) (set : e.stopping = true) :
    ∃ P' d m more, Reaches P P' ∧ Reading P' i (calls ++ [routing d m (.ok .interrupted) (rest ++ more)]) [] [] ∧
      (rest ++ more).map Entry.exchange = lateTurn k := by
  have own := reading.own_eq
  cases reading with
  | ended => cases he
  | running reads program =>
      obtain ⟨split, carried, p, run, stands⟩ := reads
      generalize hr : rest.map Entry.exchange = asked at stands
      have among : ⟨.enter k, ()⟩ ∈ asked := hr ▸ List.mem_map.mpr ⟨e, he, entered⟩
      cases stands with
      | between => cases among
      | @within request next _ p' hp written =>
          obtain ⟨d, m, rfl⟩ := route_of_enter written among
          subst hr
          obtain ⟨v, whole, on⟩ := late_write (flagged_of_reaches reached) own written he entered set
          obtain ⟨s', more, told, along, own'⟩ :=
            along_late (w := some i) (fun x hx => whole ▸ List.mem_append_right _ hx) P.state
          subst told
          rw [← List.map_append] at whole
          have goes : (P.programs (some i)).Runs (more.map Entry.exchange) _ := program ▸ (on.bind _).bind _
          have complete : (r.carry i (.route d m)).Runs ((rest ++ more).map Entry.exchange) (done (.ok .interrupted)) := by
            rw [List.map_append]
            exact written.trans on
          have reads := Reads.after carried run (Reads.call hp complete .start)
          rw [List.append_nil, ← List.append_assoc, ← split, ← own'] at reads
          exact ⟨_, d, m, more, .of_runs goes rfl rfl along, .running reads (Function.update_self ..), whole⟩

/-- A listener with an interrupted message has made its calls to the end. -/
theorem nothing_unfinished {p : Program ListenerInterface (Listener.Result Unit)} {t : List (Exchange RelayInterface)}
    {q : Program RelayInterface (Listener.Result Unit)} {s : Listener.Stance}
    (kept : p.Keeps Listener.Stance.world Listener.Stance.Over s) (interrupted : s ≠ .busy)
    (stands : Stands (r.carry i) p t q) : t = [] := by
  cases stands with
  | between => rfl
  | within hp run unfinished =>
      have permitted := (kept.of_ask hp rfl).1
      cases s with
      | busy => exact absurd rfl interrupted
      | stopped => exact permitted.elim
      | interrupted =>
          cases (permitted : _ = ListenerRequest.host .stopping)
          obtain rfl | ⟨_, _, ⟨⟩⟩ := unfinished_route run unfinished
          rfl

/-- Right behind a call in which the flag was set it is told to be set. -/
theorem told_call {before after : List (Call ListenerInterface (Entry r))} {c : Call ListenerInterface (Entry r)} {b : Bool}
    (flagged : P.state.Flagged) (reading : Reading P i calls rest gone)
    (split : calls = before ++ routing d m (.ok .interrupted) es :: c :: after) (he : e ∈ es) (set : e.stopping = true)
    (asked : c.exchange = ⟨.host .stopping, b⟩) : b = true := by
  have carried := reading.carried c (split ▸ by simp)
  unfold Call.Carried at carried
  rw [asked] at carried
  have alone : c.entries.map Entry.exchange = [⟨.host .stopping, b⟩] := Runs.of_request carried
  obtain ⟨e', entries, told⟩ := List.map_eq_singleton_iff.mp alone
  obtain ⟨front, back, rfl⟩ := List.append_of_mem he
  have own : P.state.own (some i) = before.flatMap Call.entries ++ front ++
      e :: (back ++ e' :: (after.flatMap Call.entries ++ rest ++ gone)) := by
    simp [reading.own_eq, split, entries]
  exact flagged.told_behind own set (by simp) told

theorem behind_interruption {before after : List (Call ListenerInterface (Entry r))} (flagged : P.state.Flagged)
    (reading : Reading P i calls rest gone) (split : calls = before ++ routing d m (.ok .interrupted) es :: after)
    (he : e ∈ es) (set : e.stopping = true) : after.map Call.exchange <+: [⟨.host .stopping, true⟩] ∧ rest = [] ∧
      ∀ e ∈ gone, e.exchange = ⟨.exit (r.listener i).domain (.ok ()), ()⟩ := by
  have stands : ∀ q, (r.listener i).run.Runs (calls.map Call.exchange) q →
      after.map Call.exchange = [] ∧ q.Keeps Listener.Stance.world Listener.Stance.Over .interrupted ∨
        after.map Call.exchange = [⟨.host .stopping, true⟩] ∧
          q.Keeps Listener.Stance.world Listener.Stance.Over .stopped := by
    intro q run
    rw [split, List.map_append, List.map_cons] at run
    obtain idle | stopped | ⟨v, unseen⟩ := Listener.behind_interrupted run
    · exact .inl idle
    · exact .inr stopped
    · obtain ⟨c, after, rfl, asked, -⟩ := List.map_eq_cons_iff.mp unseen
      cases told_call flagged reading split he set asked
  cases reading with
  | running reads _ =>
      obtain ⟨-, -, q, run, place⟩ := reads
      obtain ⟨calls, kept⟩ | ⟨calls, kept⟩ := stands q run
      · exact ⟨calls ▸ List.nil_prefix, List.map_eq_nil_iff.mp (nothing_unfinished kept nofun place), List.forall_mem_nil _⟩
      · exact ⟨calls ▸ List.prefix_rfl, List.map_eq_nil_iff.mp (nothing_unfinished kept nofun place), List.forall_mem_nil _⟩
  | ended _ _ run exit _ =>
      obtain ⟨-, busy | ⟨stopped, -⟩⟩ | ⟨calls, busy | ⟨-, rfl⟩⟩ := stands _ run
      · cases busy
      · cases stopped
      · cases busy
      · exact ⟨calls ▸ List.prefix_rfl, rfl, fun e he => List.mem_singleton.mp he ▸ exit⟩

/-! ## Main statement -/

/-- The history of each listener can be read as its calls, and in every such reading: a write whose turn comes when the
flag is set is interrupted, and asks for nothing but its turn and the flag, and one that is not done yet can go on to
this end; an interrupted write saw the flag, which is set, and sent no execution; and before an interrupted message the
listener opened the window of its deposit, saved nothing since, and behind it looks only at the flag and ends. -/
theorem stop_starts_and_commits_nothing (reached : Reaches (opening r) P) (i : Fin r.chains.length) :
    (∃ calls rest gone, Reading P i calls rest gone) ∧ ∀ calls rest gone, Reading P i calls rest gone →
      (∀ d m answer es e k, routing d m answer es ∈ calls → e ∈ es → e.exchange = ⟨.enter k, ()⟩ → e.stopping = true →
        answer = .ok .interrupted ∧ es.map Entry.exchange = lateTurn k) ∧
      (∀ e k, e ∈ rest → e.exchange = ⟨.enter k, ()⟩ → e.stopping = true → ∃ P' d m more, Reaches P P' ∧
        Reading P' i (calls ++ [routing d m (.ok .interrupted) (rest ++ more)]) [] [] ∧
        (rest ++ more).map Entry.exchange = lateTurn k) ∧
      (∀ d m es, routing d m (.ok .interrupted) es ∈ calls → P.state.stopping = true ∧
        (∃ e ∈ es, e.exchange = ⟨.host .stopping, true⟩ ∧ e.stopping = true) ∧
        ∀ e ∈ es, ∀ k call o, e.exchange.request = .destination k (.send call o) → call.kind ≠ .execute) ∧
      (∀ before d m es after, calls = before ++ routing d m (.ok .interrupted) es :: after →
        (∃ logs log deposit p, Listener.Opened logs (before.map Call.exchange) ∧ log ∈ logs ∧
          Deposit.ofLog log = .ok deposit ∧ m = (r.listener i).message log deposit p) ∧
        after.map Call.exchange <+: [⟨.host .stopping, true⟩] ∧ rest = [] ∧
        ∀ e ∈ gone, e.exchange = ⟨.exit (r.listener i).domain (.ok ()), ()⟩) := by
  have flagged := flagged_of_reaches reached
  refine ⟨exists_reading reached i, fun calls rest gone reading => ?_⟩
  have seen : ∀ d m es, routing d m (.ok .interrupted) es ∈ calls → P.state.stopping = true ∧
      (∃ e ∈ es, e.exchange = ⟨.host .stopping, true⟩ ∧ e.stopping = true) ∧
      ∀ e ∈ es, ∀ k call o, e.exchange.request = .destination k (.send call o) → call.kind ≠ .execute := by
    intro d m es hc
    obtain ⟨seen, unexecuted⟩ := interrupted_route (reading.carried _ hc)
    obtain ⟨e, he, told⟩ := List.mem_map.mp seen
    have known : e ∈ P.state.history := by
      refine (List.mem_filter.mp (?_ : e ∈ P.state.own (some i))).1
      rw [reading.own_eq]
      exact List.mem_append_left _ (List.mem_append_left _ (List.mem_flatMap.mpr ⟨_, hc, he⟩))
    have set := (flagged.told e true known told).symm
    exact ⟨flagged.stands e known set, ⟨e, he, told, set⟩, fun e he => unexecuted _ (List.mem_map_of_mem he)⟩
  refine ⟨?_, fun e k he entered set => late_write_goes_on reached reading he entered set, seen, ?_⟩
  · intro d m answer es e k hc he entered set
    obtain ⟨before, after, rfl⟩ := List.append_of_mem hc
    have own : P.state.own (some i) = before.flatMap Call.entries ++ es ++ (after.flatMap Call.entries ++ rest ++ gone) := by
      simp [reading.own_eq]
    obtain ⟨v, whole, on⟩ := late_write flagged own (reading.carried _ hc) he entered set
    obtain ⟨rfl, ended⟩ := on.of_done
    exact ⟨(Program.done.inj ended).symm, by rw [← whole, List.append_nil]⟩
  · rintro before d m es after rfl
    obtain ⟨-, ⟨e, he, -, set⟩, -⟩ := seen d m es (by simp)
    obtain ⟨q, run⟩ := reading.run
    rw [List.map_append, List.map_cons] at run
    exact ⟨Listener.opened_of_route run, behind_interruption flagged reading rfl he set⟩

/-! ## A late turn -/

section Sample

open Listener Writer

/-- Two chains, the second of which is the destination of a deposit on the first. -/
def sampleTwo : Relay where
  chains := [⟨sampleBound, { Writer.sample with domain := 1 }⟩, ⟨{ sampleBound with domain := 2 }, Writer.sample⟩]

def sampleFirst : Fin sampleTwo.chains.length := ⟨0, by decide⟩

/-- A call of the first listener that is a single request. -/
def samplePlain (x : Exchange ListenerInterface) (x' : Exchange RelayInterface) (stopping : Bool) :
    Call ListenerInterface (Entry sampleTwo) := ⟨x, [⟨some sampleFirst, x', stopping⟩]⟩

/-- The turn of the message comes when stop has just been signalled. -/
def sampleTurn : List (Entry sampleTwo) := (lateTurn 1).map fun x => ⟨some sampleFirst, x, true⟩

/-- What the first listener does up to the message. -/
def sampleFrontCalls : List (Call ListenerInterface (Entry sampleTwo)) :=
  [samplePlain ⟨.store (.load (Checkpoint.key 1)), .ok none⟩ ⟨.store (.load (Checkpoint.key 1)), .ok none⟩ false,
   samplePlain ⟨.host .stopping, false⟩ ⟨.host .stopping, false⟩ false,
   samplePlain ⟨.chain .head, .ok 8⟩ ⟨.source 0 .head, .ok 8⟩ false,
   samplePlain ⟨.host (.record (.latestBlock 1 8)), ()⟩ ⟨.host (.record (.latestBlock 1 8)), ()⟩ false,
   samplePlain ⟨.chain (.deposits 1 3), .ok [samplePaidLog]⟩ ⟨.source 0 (.deposits 1 3), .ok [samplePaidLog]⟩ false,
   samplePlain ⟨.host .stopping, false⟩ ⟨.host .stopping, false⟩ false,
   samplePlain ⟨.host (.record (.depositDetected 1)), ()⟩ ⟨.host (.record (.depositDetected 1)), ()⟩ false,
   samplePlain ⟨.chain (.handler Devnet.sampleResource), .ok Devnet.fungibleHandler⟩
     ⟨.source 0 (.handler Devnet.sampleResource), .ok Devnet.fungibleHandler⟩ false]

def sampleCalls : List (Call ListenerInterface (Entry sampleTwo)) := sampleFrontCalls ++
  [routing 2 samplePaidMessage (.ok .interrupted) sampleTurn, samplePlain ⟨.host .stopping, true⟩ ⟨.host .stopping, true⟩ true]

def sampleExit : Entry sampleTwo := ⟨some sampleFirst, ⟨.exit 1 (.ok ()), ()⟩, true⟩

/-- A scan that is left at its first deposit, while the relayer is stopping. -/
theorem runs_leaving {log : DepositLog} {t : Listener.Trace} (handled : (sampleBound.handle log).Runs t (done (.ok .stopped))) :
    sampleBound.run.Runs (sampleScan log ++ (t ++ [⟨.host .stopping, true⟩])) (done (.ok ())) := by
  have begun : sampleBound.run.Runs (sampleScan log) _ :=
    .ask rfl (.silent rfl (.ask rfl (.ask rfl (.ask rfl (.ask rfl (.ask rfl .stay))))))
  exact begun.trans (((((handled.bind _).bind _).bind _).bind _).trans (.silent rfl (.ask rfl .stay)))

theorem runs_sampleCalls : sampleBound.run.Runs (sampleCalls.map Call.exchange) (done (.ok ())) := by
  have sent : (sampleBound.send samplePaidMessage).Runs [⟨.route 2 samplePaidMessage, .ok .interrupted⟩]
      (done (.ok .stopped)) := .ask rfl .stay
  have configured : sampleBound.handlers.find? Devnet.fungibleHandler = some .fungible := by decide
  exact runs_leaving (runs_carried ofLog_samplePaidLog configured decode_samplePaid sent)

theorem carried_samplePlain {x : Exchange ListenerInterface} {x' : Exchange RelayInterface} {stopping : Bool}
    (h : (sampleTwo.carry sampleFirst x.request).Runs [x'] (done x.answer)) :
    (samplePlain x x' stopping).Carried (sampleTwo.carry sampleFirst) Entry.exchange := h

theorem carried_sampleCalls : ∀ c ∈ sampleCalls, c.Carried (sampleTwo.carry sampleFirst) Entry.exchange := by
  have turn : (route sampleTwo.routes 2 samplePaidMessage).Runs (lateTurn 1) (done (.ok .interrupted)) := by
    rw [route_of_some (k := 1) (w := Writer.sample) rfl]
    exact .ask rfl (.ask rfl (.ask rfl .stay))
  have front : ∀ c ∈ sampleFrontCalls, c.Carried (sampleTwo.carry sampleFirst) Entry.exchange := by
    simp only [sampleFrontCalls, List.forall_mem_cons]
    refine ⟨?_, ?_, ?_, ?_, ?_, ?_, ?_, ?_, List.forall_mem_nil _⟩
    all_goals exact carried_samplePlain (.ask rfl .stay)
  simp only [sampleCalls, List.forall_mem_append, List.forall_mem_cons]
  exact ⟨front, turn, carried_samplePlain (.ask rfl .stay), List.forall_mem_nil _⟩

/-- All requests of the first listener are answered. -/
theorem served_sample : ∀ e ∈ sampleCalls.flatMap Call.entries ++ [sampleExit], ∀ s : House sampleTwo,
    s.stopping = e.stopping → ∃ s', s.Serves e.exchange s' := by
  simp only [sampleCalls, sampleFrontCalls, samplePlain, sampleTurn, lateTurn, sampleExit, List.cons_append, List.nil_append,
    List.flatMap_cons, List.flatMap_nil, List.map_cons, List.map_nil, List.append_nil, List.forall_mem_cons]
  refine ⟨?_, ?_, ?_, ?_, ?_, ?_, ?_, ?_, ?_, ?_, ?_, ?_, ?_, List.forall_mem_nil _⟩
  all_goals
    intro s flag
    first
    | exact ⟨_, .outside trivial⟩
    | exact ⟨_, .record _⟩
    | exact ⟨_, .exit ..⟩
    | exact ⟨s, flag ▸ .stopping⟩

theorem reading_sample : ∃ P, Reaches (opening sampleTwo) P ∧ Reading P sampleFirst sampleCalls [] [sampleExit] := by
  have run := (runs_sampleCalls.translate carried_sampleCalls).bind (farewell 1)
  have ended : (farewell 1 (.ok ())).Runs [sampleExit.exchange] (done []) := .ask rfl .stay
  have stays : (sampleCalls.flatMap Call.entries ++ [sampleExit]).Pairwise fun e e' => e.stopping = true → e'.stopping = true := by
    simp [sampleCalls, sampleFrontCalls, samplePlain, sampleTurn, lateTurn, sampleExit]
  have mine : ∀ e ∈ sampleCalls.flatMap Call.entries ++ [sampleExit], e.worker = some sampleFirst := by
    simp [sampleCalls, sampleFrontCalls, samplePlain, sampleTurn, lateTurn, sampleExit]
  obtain ⟨s', along, own⟩ := along_of_served (s := (opening sampleTwo).state) mine stays
    (fun _ _ set => absurd set Bool.false_ne_true) served_sample
  rw [List.map_append] at along
  have program : (opening sampleTwo).programs (some sampleFirst) = _ := work_listener
  refine ⟨_, .of_runs (run.trans ended) program rfl along, ?_⟩
  exact .ended own carried_sampleCalls runs_sampleCalls rfl (by simp)

theorem sample_stop_starts_and_commits_nothing : ∃ P, Reaches (opening sampleTwo) P ∧
    Reading P sampleFirst sampleCalls [] [sampleExit] ∧ P.state.stopping = true ∧
    sampleTurn.map Entry.exchange = lateTurn 1 ∧
    ∃ logs log deposit p, Opened logs (sampleFrontCalls.map Call.exchange) ∧ log ∈ logs ∧ Deposit.ofLog log = .ok deposit ∧
      samplePaidMessage = sampleBound.message log deposit p := by
  obtain ⟨P, reached, reading⟩ := reading_sample
  obtain ⟨late, -, seen, behind⟩ := (stop_starts_and_commits_nothing reached sampleFirst).2 _ _ _ reading
  have among : routing 2 samplePaidMessage (.ok .interrupted) sampleTurn ∈ sampleCalls := by simp [sampleCalls]
  have turn := late 2 samplePaidMessage (.ok .interrupted) sampleTurn ⟨some sampleFirst, ⟨.enter 1, ()⟩, true⟩ 1 among
    (List.mem_cons_self ..) rfl rfl
  obtain ⟨opened, -⟩ := behind sampleFrontCalls 2 samplePaidMessage sampleTurn [_] rfl
  exact ⟨P, reached, reading, (seen _ _ _ among).1, turn.2, opened⟩

end Sample

end BridgeRelay.Relay
