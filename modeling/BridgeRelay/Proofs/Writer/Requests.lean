import BridgeRelay.Proofs.Writer.Observations

/-!
# Requests of a writer

What a writer asks for about a proposal: its record, the relayer's vote, and the submission of a vote or an execution.
All that belongs to one proposal, from the first look at it to its end.
-/

namespace BridgeRelay.Writer

open Program Destination
open Devnet (ProposalKey)

variable {w : Writer} {m : Message} {p : Proposal} {t : Trace} {α : Type} {ok : WriterRequest → Prop}

/-- Belongs to a proposal: concerns no other, looks up no handler, and leaves the messages in their order. -/
def OfProposal (p : Proposal) : WriterRequest → Prop
  | .chain (.proposal origin nonce dataHash) => ProposalKey.mk origin nonce dataHash = .of p
  | .chain (.hasVoted q _) => q = p
  | .chain (.send call _) => call.proposal = p
  | .chain (.handler _) | .enter | .leave => False
  | _ => True

/-- Looks at a proposal: reads its record or a vote for it, or asks the host. -/
def Inspects (p : Proposal) : WriterRequest → Prop
  | .chain (.proposal origin nonce dataHash) => ProposalKey.mk origin nonce dataHash = .of p
  | .chain (.hasVoted q _) => q = p
  | .host _ => True
  | _ => False

theorem ofProposal_of_inspects {r : WriterRequest} (h : Inspects p r) : OfProposal p r := by
  rcases r with (_ | _ | _ | _ | _ | _ | _ | _ | _) | _ | _ | _ | _ | _
  all_goals first | exact h.elim | exact h

theorem ofProposal_of_submission {kind : CallKind} {r : WriterRequest} (h : Signer.OfSubmission ⟨kind, p⟩ r) :
    OfProposal p r := by
  rcases r with (_ | _ | _ | _ | _ | _ | _ | ⟨call, o⟩ | _) | _ | _ | _ | _ | _
  case chain.send =>
    cases (h : call = _)
    rfl
  all_goals first | exact h.elim | trivial

theorem asks_submit {s : Signer} {kind : CallKind} : (s.submit ⟨kind, p⟩).Asks (OfProposal p) :=
  Signer.asks_submit.mono fun _ => ofProposal_of_submission

/-! ## Reads -/

theorem asks_readFrom {r : RetryPolicy} {q : Program WriterInterface (Except ChainError α)}
    (sleep : ∀ d, ok (.host (.sleep d))) (abort : ∀ fault, ok (.host (.abort fault))) (hq : q.Asks ok)
    (attempt left : Nat) : (r.readFrom q attempt left).Asks ok := by
  induction left generalizing attempt with
  | zero => exact hq
  | succ left ih =>
      refine Asks.bind hq fun answer => ?_
      cases answer with
      | ok a => trivial
      | error e =>
          dsimp only
          split
          · refine Asks.bind (Asks.bind ?_ fun _ => ⟨sleep _, fun _ => trivial⟩) fun _ => ih (attempt + 1)
            cases r.backoff attempt with
            | ok d => trivial
            | error fault => exact ⟨abort _, fun e : Empty => nomatch e⟩
          · trivial

theorem asks_read {q : Program WriterInterface (Except ChainError α)} (host : ∀ r, ok (.host r)) (hq : q.Asks ok) :
    (w.read q).Asks ok := by
  refine Asks.bind (asks_readFrom (fun _ => host _) (fun _ => host _) hq _ _) fun answer => ?_
  cases answer <;> trivial

theorem asks_readState : (w.readState p).Asks (Inspects p) :=
  asks_read (fun _ => trivial) ⟨rfl, fun _ => trivial⟩

theorem asks_readVote : (w.readVote p).Asks (Inspects p) :=
  asks_read (fun _ => trivial) ⟨rfl, fun _ => trivial⟩

/-! ## Steps -/

theorem asks_settle {failure : Option TransactionError} : (w.settle p failure).Asks (Inspects p) := by
  refine Asks.bind asks_readState ?_
  rintro (e | state)
  · trivial
  · dsimp only
    split
    · trivial
    · cases failure <;> trivial

theorem asks_execute : (w.execute p).Asks (OfProposal p) := by
  refine Asks.bind asks_submit ?_
  rintro (e | tx | _)
  · exact asks_settle.mono fun _ => ofProposal_of_inspects
  · exact ⟨trivial, fun _ => trivial⟩
  · exact asks_settle.mono fun _ => ofProposal_of_inspects

theorem asks_watch {left : Nat} : (w.watch p left).Asks (OfProposal p) := by
  induction left with
  | zero => trivial
  | succ left ih =>
      refine Asks.bind ⟨trivial, fun _ => trivial⟩ ?_
      rintro (_ | _)
      · refine Asks.bind (asks_readState.mono fun _ => ofProposal_of_inspects) ?_
        rintro (e | ⟨_ | _ | _ | _ | _, votes, block⟩)
        case ok.passed => exact asks_execute
        case ok.inactive | ok.active => exact ⟨trivial, fun _ => ih⟩
        all_goals trivial
      · trivial

theorem asks_afterFailedVote {failure : TransactionError} : (w.afterFailedVote p failure).Asks (Inspects p) := by
  refine Asks.bind asks_readState ?_
  rintro (e | state)
  · trivial
  · dsimp only
    split
    · trivial
    · split
      · trivial
      · refine Asks.bind asks_readVote ?_
        rintro (e | _ | _) <;> trivial

theorem asks_ensureVote : (w.ensureVote p).Asks (OfProposal p) := by
  refine Asks.bind (asks_readVote.mono fun _ => ofProposal_of_inspects) ?_
  rintro (e | _ | _)
  · trivial
  · refine Asks.bind asks_submit ?_
    rintro (e | tx | _)
    · exact asks_afterFailedVote.mono fun _ => ofProposal_of_inspects
    · exact ⟨trivial, fun _ => trivial⟩
    · trivial
  · trivial

theorem asks_advance : (w.advance p).Asks (OfProposal p) := by
  refine Asks.bind (asks_readState.mono fun _ => ofProposal_of_inspects) ?_
  rintro (e | ⟨_ | _ | _ | _ | _, votes, block⟩)
  case ok.passed => exact asks_execute
  case ok.inactive | ok.active =>
    refine Asks.bind asks_ensureVote ?_
    rintro (e | _ | outcome)
    · trivial
    · exact asks_watch
    · trivial
  all_goals trivial

/-! ## Messages -/

/-- Names a proposal: asks for its record or for a vote, or submits a call on it. -/
def Names : WriterRequest → Prop
  | .chain (.proposal ..) | .chain (.hasVoted ..) | .chain (.send ..) => True
  | _ => False

/-- A proposal is named only if it is that of the message, with the handler that the bridge told. -/
def NamesOwn (m : Message) (t : Trace) (r : WriterRequest) : Prop :=
  Names r → ∃ p, IsProposalOf m t p ∧ OfProposal p r

theorem keeps_advance_own (hp : IsProposalOf m t p) :
    (w.advance p).Keeps (.traced (NamesOwn m)) (fun _ _ => True) t := by
  have kept : (w.advance p).Keeps (.traced (NamesOwn m)) (fun _ t => IsProposalOf m t p) t := by
    refine asks_advance.keeps hp ?_ ?_ ?_
    · rintro t _ hp rfl
      exact hp
    · exact fun t r hr hp _ => ⟨p, hp, hr⟩
    · rintro t x _ - hp rfl
      exact hp.append [x]
  exact kept.mono fun _ _ _ => trivial

theorem keeps_deliver_own : (w.deliver m).Keeps (.traced (NamesOwn m)) (fun _ _ => True) t := by
  unfold deliver
  cases hd : Payload.encode m.transferType m.payload with
  | error e => trivial
  | ok data =>
      have nameless : (w.read (query (.handler m.resource))).Asks (fun r => ¬ Names r) :=
        asks_read (fun _ => id) ⟨id, fun _ => trivial⟩
      have looked : (w.read (query (.handler m.resource))).Keeps (.traced (NamesOwn m)) _ t :=
        (keeps_readHandler.and_asks nameless).world (fun _ _ h => h) (fun _ _ h name => absurd name h.2)
          fun _ _ _ h => h
      refine keeps_do.mpr (looked.mono ?_)
      rintro (e | handler) t' hh
      · trivial
      · dsimp only
        split
        · trivial
        · obtain ⟨u, rfl⟩ := hh handler rfl
          exact keeps_advance_own ⟨data, handler, hd, by simp, rfl⟩

/-- A write that is alone keeps to what the delivery of its message keeps to. -/
theorem keeps_write_of_deliver {permits : Trace → WriterRequest → Prop}
    (outer : ∀ t r, (∀ q, r ≠ .chain q) → permits t r)
    (h : ∀ t, (w.deliver m).Keeps (.traced permits) (fun _ _ => True) t) :
    (w.write m).Keeps (.traced permits) (fun _ _ => True) t := by
  refine keeps_do.mpr (keeps_ask_traced.mpr ⟨outer _ _ nofun, fun _ => keeps_do.mpr (keeps_do.mpr ?_)⟩)
  refine keeps_ask_traced.mpr ⟨outer _ _ nofun, fun stopping => ?_⟩
  have leaving (a : Result Outcome) (t' : Trace) :
      (leave >>= fun _ => pure a).Keeps (.traced permits) (fun _ _ => True) t' :=
    keeps_ask_traced.mpr ⟨outer _ _ nofun, fun _ => trivial⟩
  cases stopping with
  | true => exact leaving _ _
  | false => exact (h _).mono fun a t' _ => leaving a t'

/-- Each request of a write that names a proposal belongs to the proposal of its message. -/
theorem namesOwn_of_runs {x : Exchange WriterInterface} {u : Trace} {q : Program WriterInterface (Result Outcome)}
    (hr : (w.write m).Runs (t ++ x :: u) q) : NamesOwn m t x.request := by
  have outer (t : Trace) (r : WriterRequest) (h : ∀ q, r ≠ .chain q) : NamesOwn m t r := by
    cases r with
    | chain q => exact absurd rfl (h q)
    | _ => exact False.elim
  exact (keeps_write_of_deliver outer fun _ => keeps_deliver_own).permits_traced hr

end BridgeRelay.Writer
