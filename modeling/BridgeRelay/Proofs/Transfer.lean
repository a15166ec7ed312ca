import BridgeRelay.Proofs.Listener.Deliveries
import BridgeRelay.Proofs.Listener.Handovers
import BridgeRelay.Proofs.Payload.Canonical
import BridgeRelay.Proofs.Writer.Requests
import BridgeRelay.Proofs.Writer.Runs

/-!
# From a deposit to its proposal

The listener of a source chain reads the data of a deposit into a message, and the writer of the destination writes the
data of the proposal from the message. Main statement: the proposal carries the data of the deposit, so all relayers
vote for the same proposal.
-/

namespace BridgeRelay

open Payload Writer

variable {l l₁ l₂ : Listener} {log log₁ log₂ : DepositLog} {d : Deposit} {kind kind₁ kind₂ : TransferType}
  {p p₁ p₂ : Payload} {handler : Address} {data₁ data₂ : Bytes}

/-- What is written for the destination is the data of the deposit. -/
theorem encode_message (h : decode kind d.data = .ok p) :
    encode (l.message log d p).transferType (l.message log d p).payload = .ok (finished kind d.data) :=
  encode_of_decode h

/-- Two relayers on one source chain that write the same data for the same handler vote for the same proposal. -/
theorem same_proposal (chain : l₁.domain = l₂.domain) (same : finished kind₁ d.data = finished kind₂ d.data)
    (read₁ : decode kind₁ d.data = .ok p₁) (read₂ : decode kind₂ d.data = .ok p₂)
    (written₁ : encode (l₁.message log₁ d p₁).transferType (l₁.message log₁ d p₁).payload = .ok data₁)
    (written₂ : encode (l₂.message log₂ d p₂).transferType (l₂.message log₂ d p₂).payload = .ok data₂) :
    (Proposal.ofMessage (l₁.message log₁ d p₁) handler data₁).dataHash =
      (Proposal.ofMessage (l₂.message log₂ d p₂) handler data₂).dataHash ∧
    (Proposal.ofMessage (l₁.message log₁ d p₁) handler data₁).nonceAndId =
      (Proposal.ofMessage (l₂.message log₂ d p₂) handler data₂).nonceAndId := by
  rw [encode_message read₁, Except.ok.injEq] at written₁
  rw [encode_message read₂, Except.ok.injEq] at written₂
  subst written₁ written₂
  simp [Proposal.dataHash, Proposal.nonceAndId, Proposal.ofMessage, Listener.message, Message.ofPayload, same, chain]

/-- What a listener hands over and a writer names to its bridge is the proposal of one deposit, with that deposit's
data. -/
theorem names_deposit {w : Writer} {t u : Listener.Trace} {x : Exchange ListenerInterface}
    {q : Program ListenerInterface (Listener.Result Unit)} {destination : DomainId} {m : Message} {v v' : Writer.Trace}
    {y : Exchange WriterInterface} {q' : Program WriterInterface (Writer.Result Outcome)}
    (scanned : l.run.Runs (t ++ x :: u) q) (handed : x.request = .route destination m)
    (written : (w.write m).Runs (v ++ y :: v') q') (named : Names y.request) :
    ∃ log d kind p source handler, Listener.Told log t ∧ Deposit.ofLog log = .ok d ∧
      ⟨.chain (.handler d.resource), .ok source⟩ ∈ t ∧ l.handlers.find? source = some kind ∧
      decode kind d.data = .ok p ∧ destination = d.destination ∧ m = l.message log d p ∧
      ⟨.chain (.handler d.resource), .ok handler⟩ ∈ v ∧
      OfProposal (.ofMessage m handler (finished kind d.data)) y.request := by
  obtain ⟨proposal, ⟨data, handler, hd, hh, rfl⟩, named⟩ := namesOwn_of_runs written named
  cases Listener.owed_of_runs scanned handed with
  | intro told deposit looked configured read =>
      rw [encode_message read, Except.ok.injEq] at hd
      subst hd
      exact ⟨_, _, _, _, _, handler, told, deposit, looked, configured, read, rfl, rfl, hh, named⟩

/-! ## Main statement -/

/-- The message of a deposit whose data can be read is always written, as the data of the deposit; only token data that
ends right behind the recipient is followed by the word that is zero. So a writer names to its bridge only proposals
with the data of a deposit that the listener was told, and two relayers that know the same deposit and the same handler
vote under the same hash and the same key, if they agree on the kind of the transfer, or at least on whether its data
is unfinished. -/
theorem proposal_carries_deposit :
    (∀ (l : Listener) (log : DepositLog) (d : Deposit) (kind : TransferType) (p : Payload),
      Deposit.ofLog log = .ok d → decode kind d.data = .ok p →
      (¬ Unfinished kind d.data →
        encode (l.message log d p).transferType (l.message log d p).payload = .ok d.data) ∧
      (Unfinished kind d.data →
        encode (l.message log d p).transferType (l.message log d p).payload = .ok (d.data ++ List.replicate 32 0))) ∧
    (∀ (l : Listener) (w : Writer) t x u q destination m v y v' q', l.run.Runs (t ++ x :: u) q →
      x.request = .route destination m → (w.write m).Runs (v ++ y :: v') q' → Names y.request →
      ∃ log d kind p source handler, Listener.Told log t ∧ Deposit.ofLog log = .ok d ∧
        ⟨.chain (.handler d.resource), .ok source⟩ ∈ t ∧ l.handlers.find? source = some kind ∧
        decode kind d.data = .ok p ∧ destination = d.destination ∧ m = l.message log d p ∧
        ⟨.chain (.handler d.resource), .ok handler⟩ ∈ v ∧
        OfProposal (.ofMessage m handler (finished kind d.data)) y.request) ∧
    (∀ (l₁ l₂ : Listener) log₁ log₂ d kind₁ kind₂ p₁ p₂ handler data₁ data₂, l₁.domain = l₂.domain →
      Deposit.ofLog log₁ = .ok d → Deposit.ofLog log₂ = .ok d →
      decode kind₁ d.data = .ok p₁ → decode kind₂ d.data = .ok p₂ →
      (kind₁ = kind₂ ∨ (Unfinished kind₁ d.data ↔ Unfinished kind₂ d.data)) →
      encode (l₁.message log₁ d p₁).transferType (l₁.message log₁ d p₁).payload = .ok data₁ →
      encode (l₂.message log₂ d p₂).transferType (l₂.message log₂ d p₂).payload = .ok data₂ →
      (Proposal.ofMessage (l₁.message log₁ d p₁) handler data₁).dataHash =
        (Proposal.ofMessage (l₂.message log₂ d p₂) handler data₂).dataHash ∧
      (Proposal.ofMessage (l₁.message log₁ d p₁) handler data₁).nonceAndId =
        (Proposal.ofMessage (l₂.message log₂ d p₂) handler data₂).nonceAndId) := by
  refine ⟨?_, ?_, ?_⟩
  · intro l log d kind p _ read
    rw [encode_message read, finished]
    exact ⟨fun whole => by rw [if_neg whole], fun unfinished => by rw [if_pos unfinished]; rfl⟩
  · intro l w t x u q destination m v y v' q' scanned handed written named
    exact names_deposit scanned handed written named
  · intro l₁ l₂ log₁ log₂ d kind₁ kind₂ p₁ p₂ handler data₁ data₂ chain _ _ read₁ read₂ agreed
    have same : finished kind₁ d.data = finished kind₂ d.data := by
      rcases agreed with rfl | agreed
      · rfl
      · simp only [finished, agreed]
    exact same_proposal chain same read₁ read₂

/-- The deposit of a token without metadata. -/
def sampleUnfinished : Deposit := Devnet.sampleDeposit 2 8 ((Word.ofNat 7).toBytes ++ encodeBytes [0xab])

theorem ofLog_sampleUnfinished :
    Deposit.ofLog (sampleUnfinished.toLog (some 3) none none) = .ok sampleUnfinished :=
  Deposit.ofLog_toLog (by decide +kernel) ..

/-- A scan from the beginning, up to a deposit. -/
def sampleScan (log : DepositLog) : Listener.Trace :=
  [⟨.store (.load (Checkpoint.key 1)), .ok none⟩, ⟨.host .stopping, false⟩] ++ Listener.sampleLook log

theorem runs_sampleScan {t : Listener.Trace} {q : Program ListenerInterface (Listener.Result Listener.Delivery)}
    (handled : (Listener.sampleBound.handle log).Runs t q) :
    ∃ q, Listener.sampleBound.run.Runs (sampleScan log ++ t) q := by
  have begun : Listener.sampleBound.run.Runs (sampleScan log) _ :=
    .ask rfl (.silent rfl (.ask rfl (.ask rfl (.ask rfl (.ask rfl (.ask rfl .stay))))))
  exact ⟨_, begun.trans ((((handled.bind _).bind _).bind _).bind _)⟩

def sampleHandover : Listener.Trace := sampleScan Listener.samplePaidLog ++
  [⟨.host (.record (.depositDetected 1)), ()⟩, ⟨.chain (.handler Devnet.sampleResource), .ok Devnet.fungibleHandler⟩]

theorem runs_sampleHandover : ∃ u q, Listener.sampleBound.run.Runs
    (sampleHandover ++ ⟨.route 2 Listener.samplePaidMessage, .ok .executed⟩ :: u) q := by
  have sent : (Listener.sampleBound.send Listener.samplePaidMessage).Runs
      [⟨.route 2 Listener.samplePaidMessage, .ok .executed⟩, ⟨.host (.record (.messageRouted 1 2)), ()⟩]
      (.done (.ok .handled)) := .ask rfl (.ask rfl .stay)
  have configured : Listener.sampleBound.handlers.find? Devnet.fungibleHandler = some .fungible := by decide
  have handled := Listener.runs_carried Listener.ofLog_samplePaidLog configured Listener.decode_samplePaid sent
  exact ⟨_, runs_sampleScan handled⟩

/-- A relayer that waits for more confirmations. -/
def samplePatient : Listener := { Listener.sampleBound with confirmations := 12 }

theorem sample_proposal_carries_deposit :
    (∃ p, Unfinished .nonFungible sampleUnfinished.data ∧ decode .nonFungible sampleUnfinished.data = .ok p ∧
      encode p.transferType p = .ok (sampleUnfinished.data ++ List.replicate 32 0)) ∧
    encode Listener.samplePaidMessage.transferType Listener.samplePaidMessage.payload = .ok Listener.samplePaid.data ∧
    (∃ v y q' log d kind handler, (Writer.sample.write Listener.samplePaidMessage).Runs (v ++ [y]) q' ∧
      y.request = .chain (.proposal 1 7 (Proposal.hashOf Devnet.fungibleHandler Listener.samplePaid.data)) ∧
      Listener.Told log sampleHandover ∧ Deposit.ofLog log = .ok d ∧
      OfProposal (.ofMessage Listener.samplePaidMessage handler (finished kind d.data)) y.request) ∧
    (Proposal.ofMessage Listener.samplePaidMessage Devnet.fungibleHandler Listener.samplePaid.data).dataHash =
      (Proposal.ofMessage (samplePatient.message Listener.samplePaidLog Listener.samplePaid (Devnet.samplePayload 1000))
        Devnet.fungibleHandler Listener.samplePaid.data).dataHash := by
  obtain ⟨written, names, agree⟩ := proposal_carries_deposit
  have owner : Field [0xab] (encodeBytes [0xab]) := field_iff.mpr ⟨by decide, rfl⟩
  have bare := Bare.intro (Word.ofNat 7) owner
  have unfinished : Unfinished .nonFungible sampleUnfinished.data := ⟨rfl, _, bare⟩
  have whole : ¬ Unfinished .fungible Listener.samplePaid.data := fun h => nomatch h.1
  have token := (written Listener.sampleBound _ _ _ _ ofLog_sampleUnfinished (decode_bare bare)).2 unfinished
  have paid := (written Listener.sampleBound _ _ _ _ Listener.ofLog_samplePaidLog Listener.decode_samplePaid).1 whole
  have patient := (written samplePatient _ _ _ _ Listener.ofLog_samplePaidLog Listener.decode_samplePaid).1 whole
  refine ⟨⟨_, unfinished, decode_bare bare, token⟩, paid, ?_, ?_⟩
  · obtain ⟨u, q, scanned⟩ := runs_sampleHandover
    let p := Proposal.ofMessage Listener.samplePaidMessage Devnet.fungibleHandler Listener.samplePaid.data
    have advanced : (Writer.sample.advance p).Runs
        [⟨.chain (.proposal p.origin p.nonce p.dataHash), .ok ⟨.cancelled, 1, 0⟩⟩] _ :=
      (Writer.sample.runs_readState p _).bind _
    obtain ⟨q', run⟩ := runs_write (runs_deliver paid fungibleHandler_ne_zero advanced)
    have split : (Writer.sample.write Listener.samplePaidMessage).Runs
        ([⟨.enter, ()⟩, ⟨.host .stopping, false⟩,
          ⟨.chain (.handler Devnet.sampleResource), .ok Devnet.fungibleHandler⟩] ++
          [⟨.chain (.proposal p.origin p.nonce p.dataHash), .ok ⟨.cancelled, 1, 0⟩⟩]) q' := run
    obtain ⟨log, d, kind, payload, source, handler, told, deposit, -, -, -, -, -, -, named⟩ :=
      names _ _ _ _ _ _ _ _ _ _ [] _ scanned rfl split trivial
    exact ⟨_, _, q', log, d, kind, handler, split, rfl, told, deposit, named⟩
  · exact (agree _ _ _ _ _ _ _ _ _ Devnet.fungibleHandler _ _ rfl Listener.ofLog_samplePaidLog
      Listener.ofLog_samplePaidLog Listener.decode_samplePaid Listener.decode_samplePaid (.inl rfl) paid patient).1

end BridgeRelay
