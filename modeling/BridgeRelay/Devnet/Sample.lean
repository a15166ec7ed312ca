import BridgeRelay.Devnet.Bridge
import BridgeRelay.Payload.Codec

/-!
# Samples

A fungible transfer of the resource that an in-memory bridge knows, as payload, deposit, message and proposal.
-/

namespace BridgeRelay.Devnet

/-- A transfer of an amount to an account of ours. -/
def samplePayload (amount : Nat) : Payload := .fungible (Word.ofNat amount) (List.replicate 20 0xbb)

/-- The deposit of a transfer. -/
def sampleDeposit (destination : DomainId) (nonce : DepositNonce) (data : Bytes) : Deposit where
  destination
  resource := sampleResource
  nonce
  user := .replicate 20 0xaa
  data
  handlerResponse := []

/-- The hash of the transaction in which a sample was deposited: its nonce. -/
def sampleTx (nonce : DepositNonce) : Hash := .ofNat 32 nonce.toNat

/-- The message of a transfer. -/
def sampleMessage (source destination : DomainId) (nonce : DepositNonce) : Message :=
  .ofPayload source destination nonce sampleResource (samplePayload 1000) {}

/-- The proposal of a transfer. -/
def sampleProposal (nonce : DepositNonce) : Proposal :=
  .ofMessage (sampleMessage 1 2 nonce) fungibleHandler (samplePayload 1000).layout

end BridgeRelay.Devnet
