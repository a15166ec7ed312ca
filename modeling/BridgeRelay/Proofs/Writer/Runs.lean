import BridgeRelay.Devnet.Sample
import BridgeRelay.Proofs.Signer.Requests
import BridgeRelay.Proofs.Writer.Reads

/-!
# Runs of a writer

How a writer can run: a run of a part of it is a run of the whole behind the exchanges that lead to the part.
-/

namespace BridgeRelay.Writer

open Program Destination

variable {w : Writer} {m : Message} {p : Proposal} {α : Type} {t : Trace} {data : Bytes} {handler : Address}
  {q : Program WriterInterface (Result Outcome)}

/-! ## Reads -/

theorem runs_read {a : α} {q : Program WriterInterface (Except ChainError α)} (hq : q.Runs t (done (.ok a))) :
    (w.read q).Runs t (done (.ok a)) := by
  have first (left : Nat) : (w.readRetry.readFrom q 0 left).Runs t (done (.ok a)) := by
    cases left with
    | zero => exact hq
    | succ left => exact hq.bind _
  exact (first _).bind _

theorem runs_readState (w : Writer) (p : Proposal) (state : ProposalState) :
    (w.readState p).Runs [⟨.chain (.proposal p.origin p.nonce p.dataHash), .ok state⟩] (done (.ok state)) :=
  runs_read (.ask rfl .stay)

/-! ## Execution -/

theorem runs_execute_confirmed {tx : Hash}
    (hs : (w.signer.submit (.execute p)).Runs t (done (.ok (.confirmed tx)))) :
    (w.execute p).Runs (t ++ [⟨.host (.record (.executionSubmitted w.domain)), ()⟩]) (done (.ok .executed)) := by
  refine (hs.bind _).trans ?_
  exact .ask rfl .stay

theorem runs_execute_processed (state : ProposalState) (hs : state.status.isTerminal = false)
    (hr : (w.signer.submit (.execute p)).Runs t (done (.ok .alreadyProcessed))) :
    (w.execute p).Runs (t ++ [⟨.chain (.proposal p.origin p.nonce p.dataHash), .ok state⟩])
      (done (.ok (.alreadyFinal .executed))) := by
  refine (hr.bind _).trans ?_
  refine Runs.trans (t := [_]) (u := []) ((w.runs_readState p state).bind _) ?_
  dsimp only [done_bind]
  rw [hs]
  exact .stay

/-! ## Messages -/

theorem runs_advance_passed (votes : UInt8) (block : UInt64) (hr : (w.execute p).Runs t q) :
    (w.advance p).Runs (⟨.chain (.proposal p.origin p.nonce p.dataHash), .ok ⟨.passed, votes, block⟩⟩ :: t) q :=
  ((w.runs_readState p _).bind _).trans hr

theorem runs_advance_active (votes : UInt8) (block : UInt64) {q : Program WriterInterface (Result (Option Outcome))}
    (hr : (w.ensureVote p).Runs t q) : ∃ q', (w.advance p).Runs
      (⟨.chain (.proposal p.origin p.nonce p.dataHash), .ok ⟨.active, votes, block⟩⟩ :: t) q' :=
  ⟨_, ((w.runs_readState p _).bind _).trans (hr.bind _)⟩

theorem runs_deliver (hd : Payload.encode m.transferType m.payload = .ok data) (hz : handler ≠ Address.zero)
    (hr : (w.advance (.ofMessage m handler data)).Runs t q) :
    (w.deliver m).Runs (⟨.chain (.handler m.resource), .ok handler⟩ :: t) q := by
  have looked : (w.read (query (.handler m.resource))).Runs [⟨.chain (.handler m.resource), .ok handler⟩]
      (done (.ok handler)) := runs_read (.ask rfl .stay)
  unfold deliver
  rw [hd]
  refine (looked.bind _).trans ?_
  dsimp only [done_bind]
  rw [if_neg hz]
  exact hr

/-- A delivery that finds its proposal passed, and executes it. -/
theorem runs_executed (w : Writer) (votes : UInt8) (block : UInt64) (tx : Hash)
    (hd : Payload.encode m.transferType m.payload = .ok data) (hz : handler ≠ Address.zero)
    (hp : p = .ofMessage m handler data) : ∃ t o, (∀ x ∈ t, Signer.Asked 0 x) ∧
      (w.deliver m).Runs (⟨.chain (.handler m.resource), .ok handler⟩ ::
        ⟨.chain (.proposal p.origin p.nonce p.dataHash), .ok ⟨.passed, votes, block⟩⟩ :: ⟨.takeNonce, none⟩ ::
        (t ++ ⟨.chain (.send (.execute p) o), .ok tx⟩ ::
          [⟨.giveNonce (some (Signer.nextNonce none o.nonce)), ()⟩, ⟨.host .now, (0 : Nat)⟩,
            ⟨.chain (.receipt tx), .ok (some true)⟩, ⟨.host (.record (.executionSubmitted w.domain)), ()⟩]))
        (done (.ok .executed)) := by
  obtain ⟨t, o, asked, hs⟩ := w.signer.runs_confirmed (.execute p) tx
  subst hp
  have delivered := runs_deliver hd hz (runs_advance_passed votes block (runs_execute_confirmed hs))
  exact ⟨t, o, asked, by simpa using delivered⟩

theorem runs_write (hr : (w.deliver m).Runs t q) :
    ∃ q', (w.write m).Runs (⟨.enter, ()⟩ :: ⟨.host .stopping, false⟩ :: t) q' :=
  ⟨_, .ask rfl (.ask rfl (hr.bind _))⟩

theorem runs_write_done {a : Result Outcome} (hr : (w.deliver m).Runs t (done a)) :
    (w.write m).Runs (⟨.enter, ()⟩ :: ⟨.host .stopping, false⟩ :: (t ++ [⟨.leave, ()⟩])) (done a) :=
  .ask rfl (.ask rfl ((hr.bind _).trans (.ask rfl .stay)))

/-! ## A sample -/

/-- A writer with the usual settings. -/
def sample : Writer where
  domain := 2
  pollInterval := .ofMillis 1000
  watchLimit := 10
  relayer := .replicate 20 0x5e
  readRetry := {}
  signer := .sample

theorem encode_sampleMessage : ∃ data, Payload.encode (Devnet.sampleMessage 1 2 7).transferType
    (Devnet.sampleMessage 1 2 7).payload = .ok data := ⟨_, rfl⟩

theorem fungibleHandler_ne_zero : Devnet.fungibleHandler ≠ Address.zero := by decide +kernel

end BridgeRelay.Writer
