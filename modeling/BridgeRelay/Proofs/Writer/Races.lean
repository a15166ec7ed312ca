import BridgeRelay.Proofs.Devnet.Race
import BridgeRelay.Proofs.Writer.Runs
import BridgeRelay.Proofs.Writer.Service

/-!
# Races of a writer

However the other relayers and the admin move between the requests of a writer, its writes end without an error. What a
writer executes nobody else did.
-/

namespace BridgeRelay

open Program Destination Devnet Race

variable {relayer : Address} {call : BridgeCall} {s s' s'' : Race} {p : Proposal}

/-! ## Service -/

namespace Devnet.Race

theorem reply_aside {r : WriterRequest} (hr : r.IsAside) (a : r.Answer) :
    Reply relayer s ⟨r, a⟩ s' ↔ Smooth ⟨r, a⟩ ∧ s' = s := by
  rcases r with (_ | _ | _ | _ | _ | _ | _ | _ | _) | (_ | _ | _ | _ | _ | _) | _ | _ | _ | _
  all_goals first
    | exact hr.elim
    | exact .rfl
    | exact ⟨fun h => ⟨trivial, h⟩, And.right⟩

theorem reply_send {o : TransactionOptions} {a : Except ChainError Hash}
    (h : Reply relayer s ⟨.chain (.send call o), a⟩ s') :
    (∃ e, s.bridge.apply relayer call = .error e ∧ a = .error e ∧ s' = s) ∨
      ∃ b tx, s.bridge.apply relayer call = .ok b ∧ a = .ok tx ∧ s' = s.accept call b := by
  cases hb : s.bridge.apply relayer call with
  | error e =>
      simp only [Reply, hb] at h
      exact .inl ⟨e, rfl, h⟩
  | ok b =>
      simp only [Reply, hb] at h
      obtain ⟨⟨tx, rfl⟩, rfl⟩ := h
      exact .inr ⟨b, tx, rfl, rfl, rfl⟩

/-- Whatever the others do, the relayer is served. -/
theorem serves : Serves (world relayer) Onward where
  refl := .refl
  trans := .trans
  drift := onward_of_drift
  answers hr s := by
    obtain ⟨a, smooth⟩ := exists_smooth hr
    exact ⟨a, s, (reply_aside hr a).mpr ⟨smooth, rfl⟩⟩
  smooth hx h := by
    obtain ⟨smooth, rfl⟩ := (reply_aside hx _).mp h
    exact ⟨smooth, .refl _⟩
  tries s call o := by
    cases h : s.bridge.apply relayer call with
    | error e => exact ⟨.error e, s, by simp [world, Reply, h]⟩
    | ok b => exact ⟨.ok (.ofNat 32 0), s.accept call b, by simp [world, Reply, h]⟩
  refuses h := by
    obtain ⟨e, refused, ⟨⟩, -⟩ | ⟨_, _, _, ⟨⟩, _⟩ := reply_send h
    obtain ⟨reason, rfl⟩ := Bridge.reverted_of_apply refused
    exact Signer.isFinal_reverted reason

theorem answered_of_accepted {tx : Hash} (h : Sent (world relayer) Onward call s (.ok tx) s') :
    Answered relayer call s none s' := by
  obtain ⟨before, reply, after⟩ := h
  obtain ⟨_, _, ⟨⟩, _⟩ | ⟨b, _, accepted, -, rfl⟩ := reply_send reply
  exact .accepted before accepted after

theorem answered_of_refused {e : ChainError} (h : Sent (world relayer) Onward call s (.error e) s') :
    Answered relayer call s (some e) s' := by
  obtain ⟨before, reply, after⟩ := h
  obtain ⟨_, refused, ⟨⟩, rfl⟩ | ⟨_, _, _, ⟨⟩, _⟩ := reply_send reply
  exact .refused before refused after

end Devnet.Race

namespace Writer

variable {w : Writer} {α : Type} {k : ProposalKey}

/-! ## Reads -/

/-- The status that is read is that of the proposal at this moment. -/
theorem ends_readState (hs : s.Sound) : (w.readState p).Ends (world relayer)
    (fun a s' => ∃ state, a = .ok state ∧ (s'.bridge.record (.of p)).status = state.status ∧ s.Onward s') s := by
  refine ends_read (ends_ask fun s₁ h => ?_)
  have read : s₁.bridge.readState (.of p) =
      (.ok (s₁.bridge.record (.of p)).state, { s₁.bridge with stateReads := s₁.bridge.stateReads + 1 }) := by
    simp [Bridge.readState, (h.sound hs).readable]
  have unchanged : s₁.Onward { s₁ with bridge := { s₁.bridge with stateReads := s₁.bridge.stateReads + 1 } } :=
    onward_of_bridge ⟨rfl, rfl, fun _ => .refl _⟩
  refine ⟨⟨_, _, rfl, rfl⟩, ?_⟩
  rintro a s₂ ⟨ha, hs₂⟩
  change a = (s₁.bridge.readState (.of p)).1 at ha
  change s₂ = { s₁ with bridge := (s₁.bridge.readState (.of p)).2 } at hs₂
  rw [read] at ha hs₂
  subst ha hs₂
  exact .done ⟨_, rfl, rfl, h.trans unchanged⟩

theorem ends_readVote : (w.readVote p).Ends (world relayer) (fun a s' => ∃ voted, a = .ok voted ∧ s.Onward s') s := by
  refine ends_read (ends_ask fun s₁ h => ⟨⟨_, s₁, rfl, rfl⟩, ?_⟩)
  rintro _ _ ⟨rfl, rfl⟩
  exact .done ⟨_, rfl, h⟩

theorem ends_readHandler {r : ResourceId} : (w.read (query (.handler r))).Ends (world relayer)
    (fun a s' => ∃ handler, a = .ok handler ∧ handler = s.bridge.handler r ∧ s.Onward s') s := by
  refine ends_read (ends_ask fun s₁ h => ⟨⟨_, s₁, rfl, rfl⟩, ?_⟩)
  rintro _ _ ⟨rfl, rfl⟩
  exact .done ⟨_, rfl, by simp [Bridge.handler, h.bridge.handlers], h⟩

/-! ## Execution -/

/-- The end of a write that met no error, with an execution only if it is the only one of the proposal. -/
def Untroubled (k : ProposalKey) (a : Result Outcome) (s : Race) : Prop :=
  ∃ outcome, a = .ok outcome ∧ (outcome = .executed → s.Won k)

theorem Untroubled.onward {a : Result Outcome} (h : Untroubled k a s) (hs : s.Onward s') : Untroubled k a s' := by
  obtain ⟨outcome, rfl, hw⟩ := h
  exact ⟨outcome, rfl, fun h => (hw h).onward hs⟩

theorem untroubled_of_ne {outcome : Outcome} (h : outcome ≠ .executed) : Untroubled k (.ok outcome) s :=
  ⟨outcome, rfl, fun he => absurd he h⟩

/-- A proposal that is final settles the message. -/
theorem ends_settle {failure : Option TransactionError} (hs : s.Sound)
    (ht : (s.bridge.record (.of p)).status.isTerminal = true) :
    (w.settle p failure).Ends (world relayer) (Untroubled k) s := by
  refine .bind ((ends_readState hs).mono ?_)
  rintro _ s' ⟨state, rfl, hr, h⟩
  have final : state.status.isTerminal = true := by
    rw [← hr, (h.bridge.status _).eq_of_isTerminal ht]
    exact ht
  dsimp only
  rw [if_pos final]
  exact .done (untroubled_of_ne nofun)

/-- Whoever is late with an execution finds the proposal final. -/
theorem ends_execute (hs : s.Sound) (hp : ProposalStatus.passed.LeadsTo (s.bridge.record (.of p)).status) :
    (w.execute p).Ends (world relayer) (Untroubled (.of p)) s := by
  have late {e : ChainError} {s' : Race} (h : Answered relayer (.execute p) s (some e) s') :
      s'.Sound ∧ (s'.bridge.record (.of p)).status.isTerminal = true := by
    obtain _ | ⟨before, refused, after⟩ := h
    have hp' := (hp.trans (before.bridge.status _)).of_passed.resolve_left (Bridge.not_passed_of_execute refused)
    exact ⟨after.sound (before.sound hs), by rw [(after.bridge.status _).eq_of_isTerminal hp']; exact hp'⟩
  refine .bind ((Signer.ends_submit serves).mono ?_)
  rintro (e | tx | _) s' h
  · obtain ⟨e, h, -⟩ := h
    exact ends_settle (late (answered_of_refused h)).1 (late (answered_of_refused h)).2
  · obtain ⟨before, accepted, after⟩ := answered_of_accepted h
    have won := (won_accept (before.sound hs) accepted).onward after
    exact .bind (serves.ends_ask trivial fun _ _ _ h => .done (.done ⟨_, rfl, fun _ => won.onward h⟩))
  · obtain ⟨e, h⟩ := h
    exact ends_settle (late (answered_of_refused h)).1 (late (answered_of_refused h)).2

/-! ## Watching -/

theorem ends_watch {left : Nat} (hs : s.Sound) : (w.watch p left).Ends (world relayer) (Untroubled (.of p)) s := by
  induction left generalizing s with
  | zero => exact .done (untroubled_of_ne nofun)
  | succ left ih =>
      refine .bind (serves.ends_ask trivial fun stopping s₁ _ h => .done ?_)
      cases stopping with
      | true => exact .done (untroubled_of_ne nofun)
      | false =>
          refine .bind ((ends_readState (h.sound hs)).mono ?_)
          rintro _ s₂ ⟨⟨_ | _ | _ | _ | _, votes, block⟩, rfl, hr, h'⟩
          case passed => exact ends_execute (h'.sound (h.sound hs)) (by rw [hr]; exact .refl _)
          case inactive | active =>
            refine .bind (serves.ends_ask trivial fun _ s₃ _ h'' => .done ?_)
            exact ih (h''.sound (h'.sound (h.sound hs)))
          all_goals exact .done (untroubled_of_ne nofun)

/-! ## Voting -/

/-- Whoever is late with a vote goes on as if it was cast. -/
theorem ends_vote : (w.vote p).Ends (world relayer) (fun a s' => a = .ok none ∧ s.Onward s') s := by
  refine .bind ((Signer.ends_submit serves).mono ?_)
  rintro (e | tx | _) s' h
  · obtain ⟨e, h, hc⟩ := h
    obtain _ | ⟨-, refused, -⟩ := answered_of_refused h
    exact absurd (Bridge.alreadyProcessed_of_vote refused) hc
  · have onward := (answered_of_accepted h).onward
    exact .bind (serves.ends_ask trivial fun _ _ _ h' => .done (.done ⟨rfl, onward.trans h'⟩))
  · obtain ⟨e, h⟩ := h
    exact .done ⟨rfl, (answered_of_refused h).onward⟩

theorem ends_ensureVote : (w.ensureVote p).Ends (world relayer) (fun a s' => a = .ok none ∧ s.Onward s') s := by
  refine .bind (ends_readVote.mono ?_)
  rintro _ s₁ ⟨voted, rfl, h⟩
  cases voted with
  | true => exact .done ⟨rfl, h⟩
  | false => exact ends_vote.mono fun _ _ h' => ⟨h'.1, h.trans h'.2⟩

/-! ## Messages -/

theorem ends_advance (hs : s.Sound) : (w.advance p).Ends (world relayer) (Untroubled (.of p)) s := by
  refine .bind ((ends_readState hs).mono ?_)
  rintro _ s₁ ⟨⟨_ | _ | _ | _ | _, votes, block⟩, rfl, hr, h⟩
  case passed => exact ends_execute (h.sound hs) (by rw [hr]; exact .refl _)
  case inactive | active =>
    refine .bind (ends_ensureVote.mono ?_)
    rintro _ s₂ ⟨rfl, h'⟩
    exact ends_watch (h'.sound (h.sound hs))
  all_goals exact .done (untroubled_of_ne nofun)

variable {m : Message} {data : Bytes}

/-- The proposal of a message at a bridge. -/
abbrev proposalAt (m : Message) (data : Bytes) (b : Bridge) : Proposal := .ofMessage m (b.handler m.resource) data

theorem ends_deliver (hd : Payload.encode m.transferType m.payload = .ok data) (hs : s.Sound)
    (hz : s.bridge.handler m.resource ≠ Address.zero) :
    (w.deliver m).Ends (world relayer) (Untroubled (.of (proposalAt m data s.bridge))) s := by
  unfold deliver
  rw [hd]
  refine .bind (ends_readHandler.mono ?_)
  rintro _ s₁ ⟨_, rfl, rfl, h⟩
  dsimp only
  rw [if_neg hz]
  exact ends_advance (h.sound hs)

theorem ends_write (hd : Payload.encode m.transferType m.payload = .ok data) (hs : s.Sound)
    (hz : s.bridge.handler m.resource ≠ Address.zero) :
    (w.write m).Ends (world relayer) (Untroubled (.of (proposalAt m data s.bridge))) s := by
  have delivered {s' : Race} (h : s.Onward s') :
      (w.deliver m).Ends (world relayer) (Untroubled (.of (proposalAt m data s.bridge))) s' := by
    have bound : s'.bridge.handler m.resource = s.bridge.handler m.resource := by
      simp [Bridge.handler, h.bridge.handlers]
    have ends : (w.deliver m).Ends (world relayer) (Untroubled (.of (proposalAt m data s'.bridge))) s' :=
      ends_deliver hd (h.sound hs) (bound ▸ hz)
    rwa [proposalAt, bound] at ends
  have leaving {a : Result Outcome} {s' : Race} (h : Untroubled (.of (proposalAt m data s.bridge)) a s') :
      (leave >>= fun _ => pure a).Ends (world relayer) (Untroubled (.of (proposalAt m data s.bridge))) s' :=
    .bind (serves.ends_ask trivial fun _ _ _ hs => .done (.done (h.onward hs)))
  refine .bind (serves.ends_ask trivial fun _ s₁ _ h₁ => .done (.bind (.bind ?_)))
  refine serves.ends_ask trivial fun stopping s₂ _ h₂ => .done ?_
  cases stopping with
  | true => exact .done (leaving (untroubled_of_ne nofun))
  | false => exact (delivered (h₁.trans h₂)).mono fun _ _ => leaving

/-! ## Main statement -/

/-- At a bridge where others vote, execute and cancel between any two requests, the write of a message whose resource
is bound ends without an error. If it ends as executed, then for ever after the only execution of the proposal is the
relayer's. -/
theorem races_end_without_error (w : Writer) (hd : Payload.encode m.transferType m.payload = .ok data) (hs : s.Sound)
    (hz : s.bridge.handler m.resource ≠ Address.zero) :
    (w.write m).Ends (world w.relayer) (fun a s' => ∃ outcome, a = .ok outcome ∧ (outcome = .executed →
      ∀ s'', (world w.relayer).drift s' s'' → s''.executions (.of (proposalAt m data s.bridge)) = [.own])) s := by
  refine (ends_write hd hs hz).mono ?_
  rintro a s' ⟨outcome, rfl, hw⟩
  exact ⟨outcome, rfl, fun h s'' hd => ((hw h).onward (onward_of_drift hd)).executions⟩

/-- A race in which a proposal has passed and is not executed yet. -/
def samplePassed (p : Proposal) : Race := { bridge := ({} : Bridge).setRecord (.of p) { status := .passed } }

theorem sound_samplePassed (p : Proposal) : (samplePassed p).Sound := ⟨rfl, fun _ h => absurd rfl h⟩

theorem handler_samplePassed (p : Proposal) : (samplePassed p).bridge.handler sampleResource = fungibleHandler := by
  have : ({} : Bridge).handler sampleResource = fungibleHandler := by decide +kernel
  exact this

theorem reply_of_asked {n : UInt64} {x : Exchange WriterInterface} (hx : Signer.Asked n x) : Reply relayer s x s := by
  rcases hx with rfl | rfl | rfl <;> exact ⟨⟨_, rfl⟩, rfl⟩

/-- Where a proposal has passed, a write can execute it. -/
theorem runs_samplePassed (hd : Payload.encode (sampleMessage 1 2 7).transferType (sampleMessage 1 2 7).payload = .ok data)
    (hp : p = .ofMessage (sampleMessage 1 2 7) fungibleHandler data) : ∃ t s',
      (sample.write (sampleMessage 1 2 7)).Runs t (done (.ok .executed)) ∧
        (world sample.relayer).Along (samplePassed p) t s' := by
  obtain ⟨t, o, asked, delivered⟩ := sample.runs_executed 0 0 (.ofNat 32 1) hd fungibleHandler_ne_zero hp
  have recorded : (samplePassed p).bridge.record (.of p) = { status := .passed } := Bridge.record_setRecord_self
  let read : Race := { samplePassed p with bridge := ((samplePassed p).bridge.readState (.of p)).2 }
  obtain ⟨b, executed⟩ : ∃ b, read.bridge.apply sample.relayer (.execute p) = .ok b := by
    have : read.bridge.record (.of p) = { status := .passed } := recorded
    simp [Bridge.apply, Bridge.execute, this]
  refine ⟨_, read.accept (.execute p) b, runs_write_done delivered, ?_⟩
  refine along_cons rfl (along_cons rfl (along_cons ⟨congrArg Except.ok (handler_samplePassed p).symm, rfl⟩ ?_))
  refine along_cons ⟨?_, rfl⟩ (along_cons rfl ?_)
  · exact congrArg (fun r : ProposalRecord => Except.ok r.state) recorded.symm
  · have asking : (world sample.relayer).Along read t read := along_idle fun x hx => reply_of_asked (asked x hx)
    refine (asking.append (along_cons ?_ (along_idle ?_))).append (along_idle ?_)
    · simp [Reply, executed]
    · simp [Reply]
    · simp [Reply]

theorem sample_races_end_without_error : ∃ (s : Race) (t : Trace) (s' : Race) (k : ProposalKey),
    (sample.write (sampleMessage 1 2 7)).Runs t (done (.ok .executed)) ∧ (world sample.relayer).Along s t s' ∧
      s'.executions k = [.own] := by
  obtain ⟨data, hd⟩ := encode_sampleMessage
  let p := Proposal.ofMessage (sampleMessage 1 2 7) fungibleHandler data
  have bound : (samplePassed p).bridge.handler sampleResource ≠ Address.zero := by
    rw [handler_samplePassed]
    exact fungibleHandler_ne_zero
  have ends := races_end_without_error sample hd (sound_samplePassed p) bound
  obtain ⟨t, s', written, along⟩ := runs_samplePassed hd rfl
  obtain ⟨_, ⟨⟩, only⟩ := ends.of_runs written along
  exact ⟨_, t, s', _, written, along, only rfl _ .refl⟩

end Writer

end BridgeRelay
