import BridgeRelay.Proofs.Program.Pool
import BridgeRelay.Proofs.Writer.Requests
import BridgeRelay.Proofs.Writer.Runs

/-!
# Writes that wait for one another

The writes of any number of messages by one writer, interleaved in any way. Each waits until no other message is being
written, so what is in order while one message is written alone is in order in the common trace of all of them.
-/

namespace BridgeRelay

open Program Destination

/-- Is made while a message is written: it neither waits for the other messages nor lets the next one in. -/
def WriterRequest.IsInner : WriterRequest → Prop
  | .enter | .leave => False
  | _ => True

namespace Writer

variable {w : Writer} {m : Message} {p : Proposal} {α : Type}

/-! ## Requests for one message -/

theorem isInner_of_proposal {r : WriterRequest} (h : OfProposal p r) : r.IsInner := by
  cases r with
  | enter | leave => exact h
  | _ => trivial

theorem asks_deliver : (w.deliver m).Asks WriterRequest.IsInner := by
  unfold deliver
  split
  · trivial
  · refine Asks.bind (asks_read (fun _ => trivial) ⟨trivial, fun _ => trivial⟩) ?_
    rintro (e | handler)
    · trivial
    · dsimp only
      split
      · trivial
      · exact asks_advance.mono fun _ => isInner_of_proposal

/-! ## The inbox -/

/-- The messages of one writer: which of them is being written, and what the writer asked and was answered so far. -/
structure Inbox (ι : Type) where
  writing : Option ι := none
  trace : Trace := []

namespace Inbox

variable {ι : Type} {i : ι} {b b' : Inbox ι} {P : ι → Trace → WriterRequest → Prop}

/-- While a message is being written the writes of the others only wait. -/
structure Drift (i : ι) (b b' : Inbox ι) : Prop where
  held : b.writing = some i → b' = b
  free : b.writing ≠ some i → b'.writing ≠ some i

/-- A write waits for the others first, and then makes requests that are in order in the common trace. -/
def Permits (P : ι → Trace → WriterRequest → Prop) (i : ι) (b : Inbox ι) : WriterRequest → Prop
  | .enter => b.writing ≠ some i ∧ P i b.trace .enter
  | r => b.writing = some i ∧ P i b.trace r

/-- A write begins when no message is being written; all else is answered in any way. -/
def Reply (i : ι) (b : Inbox ι) : Exchange WriterInterface → Inbox ι → Prop
  | ⟨.enter, a⟩, b' => b.writing = none ∧ b' = ⟨some i, b.trace ++ [⟨.enter, a⟩]⟩
  | ⟨.leave, a⟩, b' => b' = ⟨none, b.trace ++ [⟨.leave, a⟩]⟩
  | x, b' => b' = ⟨b.writing, b.trace ++ [x]⟩

/-- The inbox as the write of one message sees it. -/
def world (P : ι → Trace → WriterRequest → Prop) (i : ι) : World WriterInterface (Inbox ι) where
  drift := Drift i
  permits := Permits P i
  reply := Reply i

theorem Permits.inner {r : WriterRequest} (hr : r.IsInner) : Permits P i b r ↔ b.writing = some i ∧ P i b.trace r := by
  cases r with
  | enter | leave => exact absurd hr id
  | _ => exact .rfl

theorem Reply.inner {x : Exchange WriterInterface} (hx : x.request.IsInner) :
    Reply i b x b' ↔ b' = ⟨b.writing, b.trace ++ [x]⟩ := by
  obtain ⟨r, a⟩ := x
  cases r with
  | enter | leave => exact absurd hx id
  | _ => exact .rfl

/-- The writer's trace grows by what is asked, which is in order. -/
theorem trace_of_reply {x : Exchange WriterInterface} (hp : Permits P i b x.request) (hr : Reply i b x b') :
    b'.trace = b.trace ++ [x] ∧ P i b.trace x.request := by
  obtain ⟨r, a⟩ := x
  cases r with
  | enter => exact ⟨hr.2 ▸ rfl, hp.2⟩
  | leave => exact ⟨(hr : b' = _) ▸ rfl, hp.2⟩
  | _ => exact ⟨(hr : b' = _) ▸ rfl, hp.2⟩

theorem fair : Pool.Fair (world P) where
  refl _ _ := ⟨fun _ => rfl, id⟩
  trans := by
    rintro i b₁ b₂ b₃ ⟨held, free⟩ ⟨held', free'⟩
    refine ⟨fun h => ?_, fun h => free' (free h)⟩
    cases held h
    exact held' h
  drift := by
    rintro i j b b' ⟨r, a⟩ hij permitted reply
    have other (hj : b.writing = some j) : b.writing ≠ some i :=
      fun hi => hij (Option.some.inj (hi.symm.trans hj))
    by_cases hr : (r : WriterRequest).IsInner
    · have hj := ((Permits.inner hr).mp permitted).1
      cases (Reply.inner (x := ⟨r, a⟩) hr).mp reply
      exact ⟨fun h => absurd h (other hj), id⟩
    · cases r with
      | enter =>
          obtain ⟨free, rfl⟩ := reply
          exact ⟨fun h => by simp [free] at h, fun _ h => hij (Option.some.inj h).symm⟩
      | leave =>
          cases (reply : b' = _)
          exact ⟨fun h => absurd h (other permitted.1), fun _ => nofun⟩
      | _ => exact absurd trivial hr

/-- What a program keeps to alone, it keeps to while its message is being written. -/
theorem keeps_alone {a : Program WriterInterface α} {Q : α → Trace → Prop} {t : Trace}
    (h : a.Keeps (.traced (P i)) Q t) (ha : a.Asks WriterRequest.IsInner) :
    a.Keeps (world P i) (fun c b => b.writing = some i ∧ Q c b.trace) ⟨some i, t⟩ := by
  induction a generalizing t with
  | done c => exact ⟨rfl, h⟩
  | ask r next ih =>
      intro b drift
      cases drift.held rfl
      obtain ⟨permitted, rest⟩ := keeps_ask_traced.mp h
      refine ⟨(Permits.inner ha.1).mpr ⟨rfl, permitted⟩, fun answer b' reply => ?_⟩
      cases (Reply.inner (x := ⟨r, answer⟩) ha.1).mp reply
      exact ih answer (rest answer) (ha.2 answer)
  | loop body st next ihb ihn =>
      obtain ⟨inv, hi, hb⟩ := h
      refine ⟨fun st b => b.writing = some i ∧ inv st b.trace, ⟨rfl, hi⟩, ?_⟩
      rintro st ⟨_, t⟩ ⟨rfl, hs⟩
      refine (ihb st (hb st t hs) (ha.1 st)).mono ?_
      rintro (st | c) ⟨_, t'⟩ ⟨rfl, hs⟩
      · exact ⟨rfl, hs⟩
      · exact ihn c hs (ha.2 c)

/-- A write waits for the others, and delivers its message as if it were alone. -/
theorem keeps_write (h : ∀ t, (w.deliver m).Keeps (.traced (P i)) (fun _ _ => True) t)
    (outer : ∀ t r, (∀ q, r ≠ .chain q) → P i t r) (hb : b.writing ≠ some i) :
    (w.write m).Keeps (world P i) (fun _ _ => True) b := by
  have leaving (c : Result Outcome) (b : Inbox ι) (hb : b.writing = some i) :
      (leave >>= fun _ => pure c).Keeps (world P i) (fun _ _ => True) b := by
    intro b' drift
    cases drift.held hb
    exact ⟨⟨hb, outer _ _ nofun⟩, fun _ _ _ => trivial⟩
  refine keeps_do.mpr fun b₁ drift => ⟨⟨drift.free hb, outer _ _ nofun⟩, ?_⟩
  rintro _ _ ⟨-, rfl⟩
  refine keeps_do.mpr (keeps_do.mpr ?_)
  intro b₂ drift
  cases drift.held rfl
  refine ⟨⟨rfl, outer _ _ nofun⟩, ?_⟩
  rintro stopping _ rfl
  cases stopping with
  | true => exact leaving _ _ rfl
  | false => exact (keeps_alone (h _) asks_deliver).mono fun c b hb => leaving c b hb.1

/-! ## The common trace -/

/-- The inbox, whatever is asked while a message is being written. -/
abbrev serial : ι → World WriterInterface (Inbox ι) := world fun _ _ _ => True

theorem reaches_world [DecidableEq ι] {pool pool' : Pool ι WriterInterface α (Inbox ι)}
    (h : Pool.Reaches serial pool pool') : Pool.Reaches (world P) pool pool' := by
  refine Relation.ReflTransGen.mono ?_ _ _ h
  intro _ _ step
  cases step with
  | silent i hp => exact .silent i hp
  | ask i hp reply => exact .ask i hp reply

/-- Every request so far was in order, whichever write made it. -/
def Orderly (P : ι → Trace → WriterRequest → Prop) (b : Inbox ι) : Prop :=
  ∀ t x u, b.trace = t ++ x :: u → ∃ i, P i t x.request

theorem Orderly.reply {x : Exchange WriterInterface} (h : Orderly P b) (permitted : Permits P i b x.request)
    (reply : Reply i b x b') : Orderly P b' := by
  intro t y u hy
  obtain ⟨ht, hp⟩ := trace_of_reply permitted reply
  rw [ht] at hy
  -- the request is the one that is just made, or an earlier one
  rcases u.eq_nil_or_concat with rfl | ⟨u, z, rfl⟩
  · obtain ⟨rfl, hxy⟩ := List.append_inj' hy rfl
    cases hxy
    exact ⟨i, hp⟩
  · rw [List.concat_eq_append, ← List.cons_append, ← List.append_assoc] at hy
    exact h t y u (List.append_inj' hy rfl).1

theorem orderly_of_reaches [DecidableEq ι] {message : ι → Message}
    {pool : Pool ι WriterInterface (Result Outcome) (Inbox ι)}
    (h : ∀ i t, (w.deliver (message i)).Keeps (.traced (P i)) (fun _ _ => True) t)
    (outer : ∀ i t r, (∀ q, r ≠ .chain q) → P i t r)
    (hr : Pool.Reaches serial ⟨fun i => w.write (message i), {}⟩ pool) : Orderly P pool.state := by
  have keeps : Pool.Keeps (world P) ⟨fun i => w.write (message i), {}⟩ :=
    fun i => keeps_write (h i) (outer i) nofun
  have begun : Orderly P ({} : Inbox ι) := by
    intro t x u h
    simp at h
  exact (keeps.reaches fair begun (fun i b x b' permitted reply hb => hb.reply permitted reply) (reaches_world hr)).2

theorem along_inner {t u : Trace} (h : ∀ x ∈ u, x.request.IsInner) :
    (world P i).alone.Along ⟨some i, t⟩ u ⟨some i, t ++ u⟩ := by
  induction u generalizing t with
  | nil =>
      rw [List.append_nil]
      exact .nil
  | cons x u ih =>
      obtain ⟨hx, hu⟩ := List.forall_mem_cons.mp h
      exact .cons rfl ((Reply.inner hx).mpr rfl) (by simpa using ih (t := t ++ [x]) hu)

/-- A write that goes on while the others have not begun. -/
theorem reaches_write [DecidableEq ι] {t : Trace} {q : Program WriterInterface (Result Outcome)}
    (message : ι → Message) (i : ι) (hr : (w.deliver (message i)).Runs t q) :
    ∃ pool : Pool ι WriterInterface (Result Outcome) (Inbox ι),
      Pool.Reaches serial ⟨fun i => w.write (message i), {}⟩ pool ∧
        pool.state.trace = ⟨.enter, ()⟩ :: ⟨.host .stopping, false⟩ :: t := by
  obtain ⟨q', written⟩ := runs_write hr
  have inner : ∀ x ∈ ⟨.host .stopping, false⟩ :: t, WriterRequest.IsInner x.request :=
    List.forall_mem_cons.mpr ⟨trivial, asks_deliver.runs hr⟩
  have along : (serial i).alone.Along ({} : Inbox ι) (⟨.enter, ()⟩ :: ⟨.host .stopping, false⟩ :: t) _ :=
    .cons rfl ⟨rfl, rfl⟩ (along_inner inner)
  exact ⟨_, .of_runs written rfl rfl along, rfl⟩

end Inbox

end Writer

end BridgeRelay
