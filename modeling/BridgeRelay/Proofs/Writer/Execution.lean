import BridgeRelay.Proofs.Writer.Inbox
import BridgeRelay.Proofs.Writer.Observations
import BridgeRelay.Proofs.Writer.Voting

/-!
# Executions of a writer

A writer broadcasts the execution of a proposal only while the record that it saw last says that the proposal has
passed. This holds of each attempt and each replacement, for a submission reads no record.
-/

namespace BridgeRelay.Writer

open Program Destination

variable {w : Writer} {m : Message} {p : Proposal} {α : Type} {t t' : Trace}

/-! ## In order -/

/-- The proposal had passed when its record was last told. -/
def SeenPassed (p : Proposal) (t : Trace) : Prop := ∃ state, lastSeen (.of p) t = some state ∧ state.status = .passed

/-- What is executed is the proposal of the message, and it was seen passed. -/
def ExecutionDue (m : Message) (t : Trace) : WriterRequest → Prop
  | .chain (.send ⟨.execute, p⟩ _) => IsProposalOf m t p ∧ SeenPassed p t
  | _ => True

/-- The world of a program that executes only what is due. -/
abbrev duly (m : Message) : World WriterInterface Trace := .traced (ExecutionDue m)

theorem Unread.seenPassed (h : Unread t t') (hs : SeenPassed p t) : SeenPassed p t' := by
  obtain ⟨state, hl, hp⟩ := hs
  exact ⟨state, h.lastSeen_eq.trans hl, hp⟩

theorem executionDue_of_not_isBroadcast {r : WriterRequest} (h : ¬ r.IsBroadcast) : ExecutionDue m t r := by
  rcases r with (_ | _ | _ | _ | _ | _ | _ | _ | _) | _ | _ | _ | _ | _
  case chain.send => exact absurd trivial h
  all_goals trivial

/-- A part that broadcasts nothing leaves the proposal of the message what it is. -/
theorem keeps_duly {a : Program WriterInterface α} {Q : α → Trace → Prop} (h : a.Keeps quietly Q t)
    (hp : IsProposalOf m t p) : a.Keeps (duly m) (fun b t' => Q b t' ∧ IsProposalOf m t' p) t := by
  have quiet : a.Keeps (duly m) Q t :=
    h.world (fun _ _ hd => hd) (fun _ _ hr => executionDue_of_not_isBroadcast hr) fun _ _ _ hx => hx
  refine quiet.and hp ?_ ?_
  · rintro _ _ h rfl
    exact h
  · rintro _ x _ h - rfl
    exact h.append [x]

/-! ## Submissions -/

theorem keeps_submit {s : Signer} {call : BridgeCall}
    (h : ∀ t' o, Unread t t' → ExecutionDue m t' (.chain (.send call o))) :
    (s.submit call).Keeps (duly m) (fun _ t' => Unread t t') t := by
  refine Signer.asks_submit.keeps Unread.refl ?_ ?_ ?_
  · rintro _ _ h rfl
    exact h
  · intro t' r hr hu
    rcases r with (_ | _ | _ | _ | _ | _ | _ | ⟨call', o⟩ | _) | _ | _ | _ | _ | _
    case chain.send =>
      cases (hr : call' = call)
      exact h t' o hu
    all_goals trivial
  · rintro t' x _ hr hu rfl
    exact hu.snoc (not_isReading_of_submission hr)

theorem keeps_execute (hp : IsProposalOf m t p) (hs : SeenPassed p t) :
    (w.execute p).Keeps (duly m) (fun _ _ => True) t := by
  have submitted : (w.signer.submit (.execute p)).Keeps (duly m) (fun _ t' => Unread t t') t :=
    keeps_submit fun _ _ hu => ⟨hu.isProposalOf hp, hu.seenPassed hs⟩
  refine keeps_do.mpr (submitted.mono ?_)
  rintro (e | tx | _) t' hu
  · exact (keeps_duly keeps_settle (hu.isProposalOf hp)).mono fun _ _ _ => trivial
  · exact keeps_do.mpr ((keeps_duly keeps_host (hu.isProposalOf hp)).mono fun _ _ _ => trivial)
  · exact (keeps_duly keeps_settle (hu.isProposalOf hp)).mono fun _ _ _ => trivial

/-- Votes are always due. -/
theorem keeps_ensureVote_duly (hp : IsProposalOf m t p) :
    (w.ensureVote p).Keeps (duly m) (fun _ t' => IsProposalOf m t' p) t := by
  refine keeps_do.mpr ((keeps_duly keeps_readVote hp).mono ?_)
  rintro (e | _ | _) t' ⟨-, hp⟩
  · exact hp
  · have submitted : (w.signer.submit (.vote p)).Keeps (duly m) (fun _ t'' => Unread t' t'') t' :=
      keeps_submit fun _ _ _ => trivial
    refine keeps_do.mpr (submitted.mono ?_)
    rintro (e | tx | _) t'' hu
    · exact (keeps_duly keeps_afterFailedVote (hu.isProposalOf hp)).mono fun _ _ h => h.2
    · exact keeps_do.mpr ((keeps_duly keeps_host (hu.isProposalOf hp)).mono fun _ _ h => h.2)
    · exact hu.isProposalOf hp
  · exact hp

/-! ## Messages -/

theorem keeps_watch {left : Nat} (hp : IsProposalOf m t p) :
    (w.watch p left).Keeps (duly m) (fun _ _ => True) t := by
  induction left generalizing t with
  | zero => trivial
  | succ left ih =>
      refine keeps_do.mpr ((keeps_duly keeps_host hp).mono ?_)
      rintro (_ | _) t' ⟨-, hp⟩
      · refine keeps_do.mpr ((keeps_duly keeps_readState hp).mono ?_)
        rintro (e | ⟨_ | _ | _ | _ | _, votes, block⟩) t'' ⟨hs, hp⟩
        case ok.passed => exact keeps_execute hp ⟨_, lastSeen_of_endsWith (hs _ rfl), rfl⟩
        case ok.inactive | ok.active =>
          exact keeps_do.mpr ((keeps_duly keeps_host hp).mono fun _ _ h => ih h.2)
        all_goals trivial
      · trivial

theorem keeps_advance (hp : IsProposalOf m t p) : (w.advance p).Keeps (duly m) (fun _ _ => True) t := by
  refine keeps_do.mpr ((keeps_duly keeps_readState hp).mono ?_)
  rintro (e | ⟨_ | _ | _ | _ | _, votes, block⟩) t' ⟨hs, hp⟩
  case ok.passed => exact keeps_execute hp ⟨_, lastSeen_of_endsWith (hs _ rfl), rfl⟩
  case ok.inactive | ok.active =>
    refine keeps_do.mpr ((keeps_ensureVote_duly hp).mono ?_)
    rintro (e | _ | outcome) t'' hp
    · trivial
    · exact keeps_watch hp
    · trivial
  all_goals trivial

theorem keeps_deliver : (w.deliver m).Keeps (duly m) (fun _ _ => True) t := by
  unfold deliver
  cases hd : Payload.encode m.transferType m.payload with
  | error e => trivial
  | ok data =>
      have looked : (w.read (query (.handler m.resource))).Keeps (duly m) _ t :=
        keeps_readHandler.world (fun _ _ h => h) (fun _ _ h => executionDue_of_not_isBroadcast h) fun _ _ _ h => h
      refine keeps_do.mpr (looked.mono ?_)
      rintro (e | handler) t' hh
      · trivial
      · dsimp only
        split
        · trivial
        · obtain ⟨u, rfl⟩ := hh handler rfl
          exact keeps_advance ⟨data, handler, hd, by simp, rfl⟩

theorem executionDue_of_outer {r : WriterRequest} (h : ∀ q, r ≠ .chain q) : ExecutionDue m t r := by
  cases r with
  | chain q => exact absurd rfl (h q)
  | _ => trivial

theorem keeps_write : (w.write m).Keeps (duly m) (fun _ _ => True) t :=
  keeps_write_of_deliver (fun _ _ => executionDue_of_outer) fun _ => keeps_deliver

/-! ## Main statement -/

/-- Whenever a write broadcasts an execution, it is that of the proposal of its message, and the record of this
proposal that the write saw last says that it has passed. The same holds of all that a writer sees, however the
writes of its messages interleave. -/
theorem executes_only_when_passed (w : Writer) :
    (∀ m t x u q p o, (w.write m).Runs (t ++ x :: u) q → x.request = .chain (.send (.execute p) o) →
      IsProposalOf m t p ∧ SeenPassed p t) ∧
    (∀ (ι : Type) [DecidableEq ι] (message : ι → Message) (pool : Pool ι WriterInterface (Result Outcome) (Inbox ι))
      t x u p o, Pool.Reaches Inbox.serial ⟨fun i => w.write (message i), {}⟩ pool →
      pool.state.trace = t ++ x :: u → x.request = .chain (.send (.execute p) o) →
      ∃ i, IsProposalOf (message i) t p ∧ SeenPassed p t) := by
  refine ⟨?_, ?_⟩
  · intro m t x u q p o hr hx
    have due := keeps_write.permits_traced hr
    rw [hx] at due
    exact due
  · intro ι _ message pool t x u p o hr ht hx
    have outer (i : ι) (t : Trace) (r : WriterRequest) : (∀ q, r ≠ .chain q) → ExecutionDue (message i) t r :=
      executionDue_of_outer
    obtain ⟨i, due⟩ := Inbox.orderly_of_reaches (fun _ _ => keeps_deliver) outer hr t x u ht
    rw [hx] at due
    exact ⟨i, due⟩

theorem sample_executes_only_when_passed :
    (∃ t x u q p o, (sample.write (Devnet.sampleMessage 1 2 7)).Runs (t ++ x :: u) q ∧
      x.request = .chain (.send (.execute p) o) ∧ IsProposalOf (Devnet.sampleMessage 1 2 7) t p ∧ SeenPassed p t) ∧
    ∃ (pool : Pool Bool WriterInterface (Result Outcome) (Inbox Bool)) (t : Trace) (x : Exchange WriterInterface)
      (u : Trace) (p : Proposal) (o : TransactionOptions),
      Pool.Reaches Inbox.serial ⟨fun _ => sample.write (Devnet.sampleMessage 1 2 7), {}⟩ pool ∧
        pool.state.trace = t ++ x :: u ∧ x.request = .chain (.send (.execute p) o) ∧ SeenPassed p t := by
  obtain ⟨alone, among⟩ := executes_only_when_passed sample
  obtain ⟨data, hd⟩ := encode_sampleMessage
  let p := Proposal.ofMessage (Devnet.sampleMessage 1 2 7) Devnet.fungibleHandler data
  obtain ⟨t, o, -, delivered⟩ := sample.runs_executed (p := p) 0 0 (.ofNat 32 1) hd fungibleHandler_ne_zero rfl
  let before : Trace := [⟨.enter, ()⟩, ⟨.host .stopping, false⟩,
    ⟨.chain (.handler (Devnet.sampleMessage 1 2 7).resource), .ok Devnet.fungibleHandler⟩,
    ⟨.chain (.proposal p.origin p.nonce p.dataHash), .ok ⟨.passed, 0, 0⟩⟩, ⟨.takeNonce, none⟩]
  refine ⟨?_, ?_⟩
  · obtain ⟨q, hr⟩ := runs_write delivered
    exact ⟨before ++ t, _, _, q, p, o, hr, rfl, alone _ (before ++ t) _ _ _ _ o hr rfl⟩
  · obtain ⟨pool, reached, ht⟩ := Inbox.reaches_write (fun _ => Devnet.sampleMessage 1 2 7) true delivered
    obtain ⟨_, -, passed⟩ := among Bool _ pool (before ++ t) _ _ p o reached ht rfl
    exact ⟨pool, before ++ t, _, _, p, o, reached, ht, rfl, passed⟩

end BridgeRelay.Writer
