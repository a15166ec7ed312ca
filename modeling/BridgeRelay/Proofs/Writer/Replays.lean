import BridgeRelay.Proofs.Writer.Runs
import BridgeRelay.Proofs.Writer.Voting
import Mathlib.Data.Set.Basic

/-!
# Replayed messages

Writes of any messages, one after another, at a bridge that tells the truth about the votes that it has recorded. A
message is written again after a restart, and a vote that is recorded is not submitted again.
-/

namespace BridgeRelay.Writer

open Program Destination

variable {w : Writer} {m : Message} {p : Proposal} {relayer : Address} {t : Trace} {x : Exchange WriterInterface}

/-- Who voted for what: the identity of the proposal, and the account. -/
structure Ballot where
  origin : DomainId
  nonce : DepositNonce
  dataHash : Hash
  relayer : Address

/-- The vote of an account for a proposal. -/
def ballot (p : Proposal) (relayer : Address) : Ballot := ⟨p.origin, p.nonce, p.dataHash, relayer⟩

variable {R R' R'' : Set Ballot}

/-- A bridge that never says of a recorded vote that it is missing. Votes are recorded at any time, and stay. -/
def truthful : World WriterInterface (Set Ballot) where
  drift R R' := R ⊆ R'
  permits _ _ := True
  reply R x R' := R' = R ∧ match x with
    | ⟨.chain (.hasVoted p relayer), .ok false⟩ => ballot p relayer ∉ R
    | _ => True

theorem subset_of_along (h : truthful.Along R t R') : R ⊆ R' := by
  induction h with
  | nil => exact subset_rfl
  | cons drift reply _ ih => exact drift.trans (reply.1 ▸ ih)

theorem along_of_told (h : ∀ p relayer, ⟨.chain (.hasVoted p relayer), .ok false⟩ ∈ t → ballot p relayer ∉ R) :
    truthful.Along R t R := by
  induction t with
  | nil => exact .nil
  | cons x t ih =>
      refine .cons subset_rfl ⟨rfl, ?_⟩ (ih fun p relayer hx => h p relayer (List.mem_cons_of_mem x hx))
      split
      · exact h _ _ List.mem_cons_self
      · trivial

theorem not_recorded_of_along (h : truthful.Along R t R')
    (hx : ⟨.chain (.hasVoted p relayer), .ok false⟩ ∈ t) : ballot p relayer ∉ R := by
  induction h with
  | nil => cases hx
  | cons drift reply _ ih =>
      obtain ⟨rfl, told⟩ := reply
      rcases List.mem_cons.mp hx with rfl | hx
      · exact fun hr => told (drift hr)
      · exact fun hr => ih hx (drift hr)

/-! ## One write -/

/-- A vote for the proposal is broadcast. -/
def Casts (t : Trace) (p : Proposal) : Prop := ∃ x ∈ t, ∃ o, x.request = .chain (.send (.vote p) o)

theorem casts_append {u v : Trace} : Casts (u ++ v) p ↔ Casts u p ∨ Casts v p := by
  simp [Casts, or_and_right, exists_or]

theorem Quiet.not_casts (h : Quiet t) : ¬ Casts t p := by
  rintro ⟨x, hx, o, ho⟩
  have := h x hx
  rw [ho] at this
  exact this trivial

theorem eq_of_casts {s : Signer} {call : BridgeCall}
    {q : Program WriterInterface (Except TransactionError Submission)} (hr : (s.submit call).Runs t q)
    (hc : Casts t p) : call = .vote p := by
  obtain ⟨x, hx, o, ho⟩ := hc
  have := Signer.asks_submit.runs hr x hx
  rw [ho] at this
  exact this.symm

theorem Submits.not_casts {s : Signer} {p' : Proposal} (h : Submits s (.execute p') t) : ¬ Casts t p := by
  obtain ⟨before, sub, after, q, rfl, hb, hr, ha⟩ := h
  rw [casts_append, casts_append]
  rintro (hc | hc | hc)
  · exact hb.not_casts hc
  · cases eq_of_casts hr hc
  · exact ha.not_casts hc

/-- A vote is broadcast only for the proposal of the message, and only once the bridge said that it is missing. -/
theorem missing_of_casts {q : Program WriterInterface (Result Outcome)} (hr : (w.write m).Runs t q)
    (hc : Casts t p) : (∃ data handler, Payload.encode m.transferType m.payload = .ok data ∧
      ⟨.chain (.handler m.resource), .ok handler⟩ ∈ t ∧ p = .ofMessage m handler data) ∧
      ⟨.chain (.hasVoted p w.relayer), .ok false⟩ ∈ t := by
  rcases writes_write hr with h | ⟨data, handler, hd, hh, before, vote, after, q', rfl, hb, hv, ha, hvote⟩
  · exact absurd hc h.not_casts
  · rw [casts_append, casts_append] at hc
    rcases hc with hc | hc | hc
    · exact absurd hc hb.not_casts
    · cases eq_of_casts hv hc
      refine ⟨⟨data, handler, hd, hh, rfl⟩, ?_⟩
      rcases hvote with rfl | ⟨u, state, v, rfl, -⟩
      · obtain ⟨x, hx, -⟩ := hc
        cases hx
      · simp
    · exact absurd hc ha.not_casts

/-! ## Writes one after another -/

/-- Writes by any writers at one bridge, which may break off anywhere, and the votes recorded before and after. -/
inductive Replays : Set Ballot → List (Writer × Message × Trace) → Set Ballot → Prop where
  | nil {R R' : Set Ballot} (grown : R ⊆ R') : Replays R [] R'
  | cons {R R₁ R₂ R₃ : Set Ballot} {w : Writer} {m : Message} {t : Trace} {writes : List (Writer × Message × Trace)}
      {q : Program WriterInterface (Result Outcome)} (grown : R ⊆ R₁) (run : (w.write m).Runs t q)
      (told : truthful.Along R₁ t R₂) (rest : Replays R₂ writes R₃) : Replays R ((w, m, t) :: writes) R₃

theorem Replays.not_recorded_of_casts {writes : List (Writer × Message × Trace)} (h : Replays R writes R')
    (hw : (w, m, t) ∈ writes) (hc : Casts t p) : ballot p w.relayer ∉ R := by
  induction h with
  | nil => cases hw
  | cons grown run told _ ih =>
      rcases List.mem_cons.mp hw with hw | hw
      · cases hw
        exact fun hr => not_recorded_of_along told (missing_of_casts run hc).2 (grown hr)
      · exact fun hr => ih hw (subset_of_along told (grown hr))

/-! ## Main statement -/

/-- A write submits at most one vote, at once after the bridge said that the proposal of the message takes votes and
that this one is missing, and then at most one execution. At a bridge that tells the truth no write broadcasts a vote
that was recorded when it began, whatever was written before it. -/
theorem votes_only_when_missing :
    (∀ w m t q, (Writer.write w m).Runs t q → w.Writes m t) ∧
    (∀ R writes R', Replays R writes R' → ∀ w m t, (w, m, t) ∈ writes → ∀ p, Casts t p → ballot p w.relayer ∉ R) :=
  ⟨fun _ _ _ _ => writes_write, fun _ _ _ h _ _ _ hw _ => h.not_recorded_of_casts hw⟩

/-- The beginning of a write, up to the record of the proposal. -/
def opening (m : Message) (p : Proposal) : Trace :=
  [⟨.enter, ()⟩, ⟨.host .stopping, false⟩, ⟨.chain (.handler m.resource), .ok p.handler⟩,
   ⟨.chain (.proposal p.origin p.nonce p.dataHash), .ok ⟨.active, 1, 0⟩⟩]

theorem runs_opening {data : Bytes} {handler : Address} {u : Trace}
    {q : Program WriterInterface (Result (Option Outcome))}
    (hd : Payload.encode m.transferType m.payload = .ok data) (hz : handler ≠ Address.zero)
    (hr : (sample.ensureVote (.ofMessage m handler data)).Runs u q) :
    ∃ q', (sample.write m).Runs (opening m (.ofMessage m handler data) ++ u) q' := by
  obtain ⟨_, advanced⟩ := runs_advance_active 1 0 hr
  exact runs_write (runs_deliver hd hz advanced)

theorem runs_ensureVote_missing (p : Proposal) : ∃ u q,
    (sample.ensureVote p).Runs (⟨.chain (.hasVoted p sample.relayer), .ok false⟩ :: u) q ∧ Casts u p := by
  obtain ⟨u, o, -, -, h⟩ := Signer.sample.runs_accepted (.vote p) 0 none none 0 (.ofNat 32 1)
  obtain ⟨q, h⟩ := Signer.runs_submitFrom_broadcast (r := { policy := sample.signer.retry }) (p := {}) h
  obtain ⟨v, hv, sent⟩ : ∃ v, (sample.signer.submit (.vote p)).Runs v q ∧
      ⟨.chain (.send (.vote p) o), .ok (.ofNat 32 1)⟩ ∈ v := ⟨_, h, by simp⟩
  obtain ⟨q', hv⟩ : ∃ q', (sample.vote p).Runs v q' := ⟨_, hv.bind _⟩
  exact ⟨v, q', .ask rfl hv, _, sent, o, rfl⟩

theorem sample_votes_only_when_missing : ∃ p t t', Casts t p ∧ sample.Writes (Devnet.sampleMessage 1 2 7) t ∧
    Replays {ballot p sample.relayer} [(sample, Devnet.sampleMessage 1 2 7, t')] {ballot p sample.relayer} ∧
    ⟨.chain (.hasVoted p sample.relayer), .ok true⟩ ∈ t' ∧ ¬ Casts t' p := by
  obtain ⟨shape, once⟩ := votes_only_when_missing
  obtain ⟨data, hd⟩ := encode_sampleMessage
  let p := Proposal.ofMessage (Devnet.sampleMessage 1 2 7) Devnet.fungibleHandler data
  -- a first write, which votes
  obtain ⟨u, q, h, hc⟩ := runs_ensureVote_missing p
  obtain ⟨q₁, h₁⟩ := runs_opening hd fungibleHandler_ne_zero h
  have cast : Casts (opening (Devnet.sampleMessage 1 2 7) p ++
      ([⟨.chain (.hasVoted p sample.relayer), .ok false⟩] ++ u)) p :=
    casts_append.mpr (.inr (casts_append.mpr (.inr hc)))
  -- a second, which finds the vote
  have found : (sample.ensureVote p).Runs [⟨.chain (.hasVoted p sample.relayer), .ok true⟩] _ := .ask rfl .stay
  obtain ⟨q₂, h₂⟩ := runs_opening hd fungibleHandler_ne_zero found
  have replayed : Replays {ballot p sample.relayer} [(sample, Devnet.sampleMessage 1 2 7, _)]
      {ballot p sample.relayer} := .cons subset_rfl h₂ (along_of_told (by simp [opening])) (.nil subset_rfl)
  refine ⟨p, _, _, cast, shape _ _ _ _ h₁, replayed, by simp, fun hc => ?_⟩
  exact once _ _ _ replayed _ _ _ (List.mem_singleton.mpr rfl) p hc rfl

end BridgeRelay.Writer
