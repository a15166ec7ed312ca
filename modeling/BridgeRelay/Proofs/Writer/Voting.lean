import BridgeRelay.Proofs.Writer.Reads

/-!
# Votes of a writer

A run of a writer submits at most one vote and then at most one execution, and the vote only after the bridge said
that the proposal takes votes and that this one is missing.
-/

namespace BridgeRelay.Writer

open Program Destination

variable {w : Writer} {m : Message} {p : Proposal} {s : Signer} {call : BridgeCall} {t u v : Trace}
  {q : Program WriterInterface (Result Outcome)}

/-! ## Shapes -/

/-- At most one submission, of a call, and nothing else is broadcast. -/
def Submits (s : Signer) (call : BridgeCall) (t : Trace) : Prop :=
  ∃ before sub after q, t = before ++ (sub ++ after) ∧ Quiet before ∧ (s.submit call).Runs sub q ∧ Quiet after

/-- The bridge said that the proposal takes votes, and then that the vote of this relayer is missing. -/
def MayVote (w : Writer) (p : Proposal) (t : Trace) : Prop :=
  ∃ u state v, t = u ++ ⟨.chain (.proposal p.origin p.nonce p.dataHash), .ok state⟩ ::
      (v ++ [⟨.chain (.hasVoted p w.relayer), .ok false⟩]) ∧
    (state.status = .inactive ∨ state.status = .active)

/-- At most one submission of a vote, which may be cast, and then at most one of the execution. -/
def Votes (w : Writer) (p : Proposal) (t : Trace) : Prop :=
  ∃ before vote after q, t = before ++ (vote ++ after) ∧ Quiet before ∧ (w.signer.submit (.vote p)).Runs vote q ∧
    Submits w.signer (.execute p) after ∧ (vote = [] ∨ w.MayVote p before)

theorem Submits.of_quiet (h : Quiet t) : Submits s call t := ⟨t, [], [], _, by simp, h, .stay, quiet_nil⟩

theorem Submits.after_quiet (h : Submits s call t) (hu : Quiet u) : Submits s call (u ++ t) := by
  obtain ⟨before, sub, after, q, rfl, hb, hr, ha⟩ := h
  exact ⟨u ++ before, sub, after, q, by simp, quiet_append.mpr ⟨hu, hb⟩, hr, ha⟩

theorem Submits.append_quiet (h : Submits s call t) (hu : Quiet u) : Submits s call (t ++ u) := by
  obtain ⟨before, sub, after, q, rfl, hb, hr, ha⟩ := h
  exact ⟨before, sub, after ++ u, q, by simp, hb, hr, quiet_append.mpr ⟨ha, hu⟩⟩

theorem Submits.of_bind {α β : Type} {a : Program WriterInterface α} {f : α → Program WriterInterface β}
    {q : Program WriterInterface β} {Q : α → Trace → Prop} (ha : a.Keeps quietly Q [])
    (hf : ∀ b v, (f b).Runs v q → Submits s call v) (hr : (a.bind f).Runs t q) : Submits s call t := by
  rcases runs_after_quiet ha hr with h | ⟨b, u, v, rfl, hu, -, hr⟩
  · exact .of_quiet h
  · exact (hf b v hr).after_quiet hu

theorem Votes.of_submits (h : Submits w.signer (.execute p) t) : w.Votes p t :=
  ⟨[], [], t, _, rfl, quiet_nil, .stay, h, .inl rfl⟩

theorem Votes.after_quiet (h : w.Votes p t) (hu : Quiet u) : w.Votes p (u ++ t) := by
  obtain ⟨before, vote, after, q, rfl, hb, hr, ha, hv⟩ := h
  refine ⟨u ++ before, vote, after, q, by simp, quiet_append.mpr ⟨hu, hb⟩, hr, ha, hv.imp_right ?_⟩
  rintro ⟨u', state, v', rfl, hs⟩
  exact ⟨u ++ u', state, v', by simp, hs⟩

theorem Votes.append_quiet (h : w.Votes p t) (hu : Quiet u) : w.Votes p (t ++ u) := by
  obtain ⟨before, vote, after, q, rfl, hb, hr, ha, hv⟩ := h
  exact ⟨before, vote, after ++ u, q, by simp, hb, hr, ha.append_quiet hu, hv⟩

/-! ## Execution -/

theorem submits_of_runs {α : Type} {f : Except TransactionError Submission → Program WriterInterface α}
    {q : Program WriterInterface α} (hf : ∀ a, (f a).Keeps quietly (fun _ _ => True) [])
    (hr : ((s.submit call).bind f).Runs t q) :
    ∃ sub after q', t = sub ++ after ∧ (s.submit call).Runs sub q' ∧ Quiet after := by
  rcases hr.of_bind with ⟨q', hr, -⟩ | ⟨a, u, v, hu, hv, rfl⟩
  · exact ⟨t, [], q', by simp, hr, quiet_nil⟩
  · exact ⟨u, v, _, rfl, hu, quiet_of_runs (hf a) hv⟩

theorem keeps_settle {failure : Option TransactionError} :
    (w.settle p failure).Keeps quietly (fun _ _ => True) t := by
  refine keeps_do.mpr (keeps_readState.mono ?_)
  rintro (e | state) t' -
  · trivial
  · dsimp only
    split
    · trivial
    · cases failure <;> trivial

theorem submits_execute (hr : (w.execute p).Runs t q) : Submits w.signer (.execute p) t := by
  obtain ⟨sub, after, q', rfl, hr, ha⟩ := submits_of_runs (by
    rintro (e | _ | _)
    · exact keeps_settle
    · exact keeps_do.mpr keeps_host
    · exact keeps_settle) hr
  exact ⟨[], sub, after, q', rfl, quiet_nil, hr, ha⟩

/-! ## Watching -/

theorem submits_watch {left : Nat} (hr : (w.watch p left).Runs t q) : Submits w.signer (.execute p) t := by
  induction left generalizing t with
  | zero => exact .of_quiet (quiet_of_done hr)
  | succ left ih =>
      refine Submits.of_bind keeps_host (fun stopping v hr => ?_) hr
      cases stopping with
      | true => exact .of_quiet (quiet_of_done hr)
      | false =>
          refine Submits.of_bind keeps_readState (fun state v hr => ?_) hr
          rcases state with e | ⟨_ | _ | _ | _ | _, votes, block⟩
          case ok.passed => exact submits_execute hr
          case ok.inactive | ok.active => exact Submits.of_bind keeps_host (fun _ _ hr => ih hr) hr
          all_goals exact .of_quiet (quiet_of_done hr)

/-! ## Voting -/

theorem keeps_afterFailedVote {failure : TransactionError} :
    (w.afterFailedVote p failure).Keeps quietly (fun _ _ => True) t := by
  refine keeps_do.mpr (keeps_readState.mono ?_)
  rintro (e | state) t' -
  · trivial
  · dsimp only
    split
    · trivial
    · split
      · trivial
      · refine keeps_do.mpr (keeps_readVote.mono ?_)
        rintro (e | _ | _) t'' - <;> trivial

/-- The vote is submitted at once after the bridge said that it is missing. -/
theorem runs_ensureVote {q : Program WriterInterface (Result (Option Outcome))} (hr : (w.ensureVote p).Runs t q) :
    ∃ before vote after q', t = before ++ (vote ++ after) ∧ Quiet before ∧
      (w.signer.submit (.vote p)).Runs vote q' ∧ Quiet after ∧
      (vote = [] ∨ EndsWith ⟨.chain (.hasVoted p w.relayer), .ok false⟩ before) := by
  have quiet (h : Quiet t) : ∃ before vote after q', t = before ++ (vote ++ after) ∧ Quiet before ∧
      (w.signer.submit (.vote p)).Runs vote q' ∧ Quiet after ∧
      (vote = [] ∨ EndsWith ⟨.chain (.hasVoted p w.relayer), .ok false⟩ before) :=
    ⟨t, [], [], _, by simp, h, .stay, quiet_nil, .inl rfl⟩
  rcases runs_after_quiet keeps_readVote hr with h | ⟨voted, u, v, rfl, hu, hends, hr⟩
  · exact quiet h
  · rcases voted with e | _ | _
    · exact quiet (quiet_append.mpr ⟨hu, quiet_of_done hr⟩)
    · obtain ⟨vote, after, q', rfl, hr, ha⟩ := submits_of_runs (by
        rintro (e | _ | _)
        · exact keeps_afterFailedVote
        · exact keeps_do.mpr keeps_host
        · trivial) hr
      exact ⟨u, vote, after, q', rfl, hu, hr, ha, .inr (hends false rfl)⟩
    · exact quiet (quiet_append.mpr ⟨hu, quiet_of_done hr⟩)

/-! ## Messages -/

/-- A proposal that takes votes is voted for and then left to something that at most executes it. -/
theorem votes_of_ensureVote {state : ProposalState}
    {f : Result (Option Outcome) → Program WriterInterface (Result Outcome)}
    (hs : state.status = .inactive ∨ state.status = .active)
    (hu : Quiet (u ++ [⟨.chain (.proposal p.origin p.nonce p.dataHash), .ok state⟩]))
    (hf : ∀ a v q, (f a).Runs v q → Submits w.signer (.execute p) v) (hr : ((w.ensureVote p).bind f).Runs v q) :
    w.Votes p (u ++ [⟨.chain (.proposal p.origin p.nonce p.dataHash), .ok state⟩] ++ v) := by
  obtain ⟨before, vote, after, q', rfl, hb, hv, ha, hends⟩ : ∃ before vote after q', v = before ++ (vote ++ after) ∧
      Quiet before ∧ (w.signer.submit (.vote p)).Runs vote q' ∧ Submits w.signer (.execute p) after ∧
      (vote = [] ∨ EndsWith ⟨.chain (.hasVoted p w.relayer), .ok false⟩ before) := by
    rcases hr.of_bind with ⟨q', hr, -⟩ | ⟨a, t₁, t₂, h₁, h₂, rfl⟩
    · obtain ⟨before, vote, after, q'', rfl, hb, hv, ha, hends⟩ := runs_ensureVote hr
      exact ⟨before, vote, after, q'', rfl, hb, hv, .of_quiet ha, hends⟩
    · obtain ⟨before, vote, after, q'', rfl, hb, hv, ha, hends⟩ := runs_ensureVote h₁
      exact ⟨before, vote, after ++ t₂, q'', by simp, hb, hv, (hf a t₂ q h₂).after_quiet ha, hends⟩
  refine ⟨_, vote, after, q', (List.append_assoc ..).symm, quiet_append.mpr ⟨hu, hb⟩, hv, ha, hends.imp_right ?_⟩
  rintro ⟨b, rfl⟩
  exact ⟨u, state, b, by simp, hs⟩

theorem votes_advance (hr : (w.advance p).Runs t q) : w.Votes p t := by
  rcases runs_after_quiet keeps_readState hr with h | ⟨state, u, v, rfl, hu, hends, hv⟩
  · exact .of_submits (.of_quiet h)
  · rcases state with e | ⟨status, votes, block⟩
    · exact .of_submits (.of_quiet (quiet_append.mpr ⟨hu, quiet_of_done hv⟩))
    · obtain ⟨u, rfl⟩ := hends _ rfl
      cases status with
      | inactive | active =>
          refine votes_of_ensureVote (by simp) hu ?_ hv
          rintro (e | _ | outcome) v q hr
          · exact .of_quiet (quiet_of_done hr)
          · exact submits_watch hr
          · exact .of_quiet (quiet_of_done hr)
      | passed => exact .of_submits ((submits_execute hv).after_quiet hu)
      | executed | cancelled => exact .of_submits (.of_quiet (quiet_append.mpr ⟨hu, quiet_of_done hv⟩))

/-- Nothing was broadcast, or the handler was found and the proposal of the message voted for and executed. -/
def Writes (w : Writer) (m : Message) (t : Trace) : Prop :=
  Quiet t ∨ ∃ data handler, Payload.encode m.transferType m.payload = .ok data ∧
    ⟨.chain (.handler m.resource), .ok handler⟩ ∈ t ∧ w.Votes (.ofMessage m handler data) t

theorem writes_deliver (hr : (w.deliver m).Runs t q) : w.Writes m t := by
  unfold deliver at hr
  cases hd : Payload.encode m.transferType m.payload with
  | error e =>
      rw [hd] at hr
      exact .inl (quiet_of_done hr)
  | ok data =>
      rw [hd] at hr
      rcases runs_after_quiet keeps_readHandler hr with h | ⟨handler, u, v, rfl, hu, hends, hv⟩
      · exact .inl h
      · cases handler with
        | error e => exact .inl (quiet_append.mpr ⟨hu, quiet_of_done hv⟩)
        | ok handler =>
            obtain ⟨u, rfl⟩ := hends handler rfl
            dsimp only at hv
            split at hv
            · exact .inl (quiet_append.mpr ⟨hu, quiet_of_done hv⟩)
            · exact .inr ⟨data, handler, hd, by simp, (votes_advance hv).after_quiet hu⟩

theorem Writes.after_quiet (h : w.Writes m t) (hu : Quiet u) : w.Writes m (u ++ t) := by
  rcases h with h | ⟨data, handler, hd, hh, hv⟩
  · exact .inl (quiet_append.mpr ⟨hu, h⟩)
  · exact .inr ⟨data, handler, hd, List.mem_append_right u hh, hv.after_quiet hu⟩

theorem Writes.append_quiet (h : w.Writes m t) (hu : Quiet u) : w.Writes m (t ++ u) := by
  rcases h with h | ⟨data, handler, hd, hh, hv⟩
  · exact .inl (quiet_append.mpr ⟨h, hu⟩)
  · exact .inr ⟨data, handler, hd, List.mem_append_left u hh, hv.append_quiet hu⟩

theorem writes_unless_stopping (hr : ((Host.stopping : Program WriterInterface Bool).bind fun stopping =>
    if stopping then pure (.ok .interrupted) else w.deliver m).Runs t q) : w.Writes m t := by
  rcases runs_after_quiet keeps_host hr with h | ⟨stopping, u, v, rfl, hu, -, hr⟩
  · exact .inl h
  · refine Writes.after_quiet ?_ hu
    cases stopping with
    | true => exact .inl (quiet_of_done hr)
    | false => exact writes_deliver hr

theorem writes_write (hr : (w.write m).Runs t q) : w.Writes m t := by
  have entering : enter.Keeps quietly (fun _ _ => True) [] := keeps_ask_watch.mpr ⟨id, fun _ => trivial⟩
  have leaving (a : Result Outcome) : (leave.bind fun _ => pure a).Keeps quietly (fun _ _ => True) [] :=
    keeps_ask_watch.mpr ⟨id, fun _ => trivial⟩
  rcases runs_after_quiet entering hr with h | ⟨_, u, v, rfl, hu, -, hr⟩
  · exact .inl h
  · refine Writes.after_quiet ?_ hu
    rcases hr.of_bind with ⟨q', hr, -⟩ | ⟨a, t₁, t₂, h₁, h₂, rfl⟩
    · exact writes_unless_stopping hr
    · exact (writes_unless_stopping h₁).append_quiet (quiet_of_runs (leaving a) h₂)

end BridgeRelay.Writer
