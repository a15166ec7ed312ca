import BridgeRelay.Abi
import BridgeRelay.Proposal

/-!
# Calls to a bridge

The two calls that a relayer sends, and their bytes.
-/

namespace BridgeRelay

/-- The kinds of calls. -/
inductive CallKind where
  | vote
  | execute
  deriving DecidableEq, Repr

/-- The name of the function that is called. -/
def CallKind.name : CallKind → String
  | .vote => "voteProposal"
  | .execute => "executeProposal"

/-- A call on a proposal. -/
structure BridgeCall where
  kind : CallKind
  proposal : Proposal
  deriving DecidableEq

namespace BridgeCall

/-- The call that votes for a proposal. -/
abbrev vote (p : Proposal) : BridgeCall := ⟨.vote, p⟩

/-- The call that executes a proposal. -/
abbrev execute (p : Proposal) : BridgeCall := ⟨.execute, p⟩

/-- The name of the function that is called. -/
def name (c : BridgeCall) : String := c.kind.name

/-- The signature of the function that votes. -/
def voteSignature : String := "voteProposal(uint8,uint64,bytes32,bytes)"

/-- The signature of the function that executes. -/
def executeSignature : String := "executeProposal(uint8,uint64,bytes,bytes32,bool)"

/-- The arguments of a vote. -/
def voteItems (p : Proposal) : List Abi.Item :=
  [.word (Word.ofNat p.origin.toNat), .word (Word.ofNat p.nonce.toNat),
   .word (Word.ofBytes p.resource.bytes.toList), .bytes p.data]

/-- The arguments of an execution. The last one asks that a failing handler reverts the call. -/
def executeItems (p : Proposal) : List Abi.Item :=
  [.word (Word.ofNat p.origin.toNat), .word (Word.ofNat p.nonce.toNat), .bytes p.data,
   .word (Word.ofBytes p.resource.bytes.toList), .word 1]

/-- The bytes of a call. -/
def calldata (c : BridgeCall) : Bytes :=
  match c.kind with
  | .vote => Abi.call voteSignature (voteItems c.proposal)
  | .execute => Abi.call executeSignature (executeItems c.proposal)

end BridgeCall

end BridgeRelay
