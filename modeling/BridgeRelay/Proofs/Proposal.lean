import BridgeRelay.Devnet.Sample
import Mathlib.Algebra.Group.Nat.Defs

/-!
# The identity of proposals

A bridge finds the record of a proposal under its origin, its nonce and the hash of its data, and a vote under a 72-bit
number for origin and nonce, and the same hash. Both keys tell apart the same proposals: those that differ in origin,
nonce, handler or data, unless the hashes of their data collide.
-/

namespace BridgeRelay.Proposal

open Devnet (ProposalKey)

variable {p p' : Proposal} {handler handler' : Address} {data data' : Bytes}

/-! ## Origin and nonce -/

/-- The nonce in the high bits and the origin in the low ones. -/
theorem nonceAndId_eq_or (p : Proposal) : p.nonceAndId = p.nonce.toNat <<< 8 ||| p.origin.toNat := by
  rw [← Nat.shiftLeft_add_eq_or_of_lt p.origin.toNat_lt, Nat.shiftLeft_eq]
  rfl

theorem nonceAndId_lt (p : Proposal) : p.nonceAndId < 2 ^ 72 := by
  have origin := p.origin.toNat_lt
  have nonce := p.nonce.toNat_lt
  unfold nonceAndId
  omega

theorem nonceAndId_inj : p.nonceAndId = p'.nonceAndId ↔ p.origin = p'.origin ∧ p.nonce = p'.nonce := by
  have origin := p.origin.toNat_lt
  have origin' := p'.origin.toNat_lt
  rw [← UInt8.toNat_inj, ← UInt64.toNat_inj, nonceAndId, nonceAndId]
  omega

/-! ## Handler and data -/

/-- All handlers are of one length, so nothing has to stand between the handler and the data. -/
theorem hashInput_inj : hashInput handler data = hashInput handler' data' ↔ handler = handler' ∧ data = data' := by
  constructor
  · intro same
    obtain ⟨bytes, rest⟩ := List.append_inj same (handler.length_eq.trans handler'.length_eq.symm)
    obtain ⟨_, _⟩ := handler
    obtain ⟨_, _⟩ := handler'
    cases bytes
    exact ⟨rfl, rest⟩
  · rintro ⟨rfl, rfl⟩
    rfl

/-- The hashes of the data collide: they are equal, and what is hashed is not. -/
def Collide (p p' : Proposal) : Prop :=
  p.dataHash = p'.dataHash ∧ hashInput p.handler p.data ≠ hashInput p'.handler p'.data

theorem dataHash_inj (h : ¬ Collide p p') : p.dataHash = p'.dataHash ↔ p.handler = p'.handler ∧ p.data = p'.data := by
  rw [← hashInput_inj]
  constructor
  · intro hashes
    exact Decidable.byContradiction fun differ => h ⟨hashes, differ⟩
  · exact fun same => congrArg Keccak.hash same

/-! ## Keys -/

/-- Under what a bridge records who has voted, with 72 bits for origin and nonce. -/
structure VoteKey where
  nonceAndId : BitVec 72
  dataHash : Hash
  deriving DecidableEq

/-- The key of the votes for a proposal. -/
def voteKey (p : Proposal) : VoteKey := ⟨BitVec.ofNat 72 p.nonceAndId, p.dataHash⟩

/-- Nothing of origin and nonce is lost in the 72 bits. -/
theorem toNat_voteKey (p : Proposal) : p.voteKey.nonceAndId.toNat = p.nonceAndId :=
  BitVec.toNat_ofNat .. ▸ Nat.mod_eq_of_lt p.nonceAndId_lt

theorem voteKey_inj :
    p.voteKey = p'.voteKey ↔ p.origin = p'.origin ∧ p.nonce = p'.nonce ∧ p.dataHash = p'.dataHash := by
  rw [← and_assoc, ← nonceAndId_inj, ← toNat_voteKey, ← toNat_voteKey, BitVec.toNat_inj, VoteKey.mk.injEq]
  rfl

theorem proposalKey_inj :
    ProposalKey.of p = ProposalKey.of p' ↔ p.origin = p'.origin ∧ p.nonce = p'.nonce ∧ p.dataHash = p'.dataHash := by
  simp [ProposalKey.of]

/-! ## Main statement -/

/-- The number for origin and nonce fits into 72 bits and is that of one origin and one nonce, and the bytes that are
hashed are those of one handler and one data. So a bridge knows two proposals under one key exactly if it counts their
votes under one, and unless their hashes collide, exactly if they agree on origin, nonce, handler and data. -/
theorem keys_tell_apart_alike (p p' : Proposal) :
    p.nonceAndId < 2 ^ 72 ∧ p.voteKey.nonceAndId.toNat = p.nonceAndId ∧
    p.nonceAndId = p.nonce.toNat <<< 8 ||| p.origin.toNat ∧
    (p.nonceAndId = p'.nonceAndId ↔ p.origin = p'.origin ∧ p.nonce = p'.nonce) ∧
    (hashInput p.handler p.data = hashInput p'.handler p'.data ↔ p.handler = p'.handler ∧ p.data = p'.data) ∧
    (ProposalKey.of p = .of p' ↔ p.voteKey = p'.voteKey) ∧
    (¬ Collide p p' → (ProposalKey.of p = .of p' ↔
      p.origin = p'.origin ∧ p.nonce = p'.nonce ∧ p.handler = p'.handler ∧ p.data = p'.data)) := by
  refine ⟨p.nonceAndId_lt, p.toNat_voteKey, p.nonceAndId_eq_or, nonceAndId_inj, hashInput_inj, ?_, fun clear => ?_⟩
  · rw [proposalKey_inj, voteKey_inj]
  · rw [proposalKey_inj, dataHash_inj clear]

/-- A transfer under the origin and the nonce of another one, with a wei more. -/
def sampleRival : Proposal := { Devnet.sampleProposal 7 with data := (Devnet.samplePayload 1001).layout }

theorem sample_keys_tell_apart : ¬ Collide (Devnet.sampleProposal 7) sampleRival ∧
    (Devnet.sampleProposal 7).nonceAndId = sampleRival.nonceAndId ∧
    ProposalKey.of (Devnet.sampleProposal 7) ≠ .of sampleRival ∧
    (Devnet.sampleProposal 7).voteKey ≠ sampleRival.voteKey := by
  have clear : ¬ Collide (Devnet.sampleProposal 7) sampleRival := fun collide =>
    absurd collide.1 (by decide +kernel)
  obtain ⟨-, -, -, origins, -, keys, agree⟩ := keys_tell_apart_alike (Devnet.sampleProposal 7) sampleRival
  have apart : ProposalKey.of (Devnet.sampleProposal 7) ≠ .of sampleRival := fun same =>
    absurd ((agree clear).mp same).2.2.2 (by decide +kernel)
  exact ⟨clear, origins.mpr ⟨rfl, rfl⟩, apart, fun same => apart (keys.mpr same)⟩

end BridgeRelay.Proposal
