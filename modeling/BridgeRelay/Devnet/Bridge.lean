import BridgeRelay.Delivery
import BridgeRelay.Devnet.SourceChain

/-!
# A destination bridge in memory

It records votes, lets a proposal pass when enough relayers voted for it, and executes what has passed.
-/

namespace BridgeRelay.Devnet

/-- Under what a bridge records a proposal: origin, nonce and data hash. -/
structure ProposalKey where
  origin : DomainId
  nonce : DepositNonce
  dataHash : Hash
  deriving DecidableEq

/-- The key of a proposal. -/
def ProposalKey.of (p : Proposal) : ProposalKey := ⟨p.origin, p.nonce, p.dataHash⟩

/-- What a bridge records of a proposal. -/
structure ProposalRecord where
  status : ProposalStatus := .inactive
  voters : List Address := []
  proposedBlock : UInt64 := 0
  deriving DecidableEq, Inhabited

/-- The record as it is read. -/
def ProposalRecord.state (r : ProposalRecord) : ProposalState :=
  ⟨r.status, UInt8.ofNat r.voters.length, r.proposedBlock⟩

/-- The resource that an in-memory bridge knows at first. -/
def sampleResource : ResourceId := ⟨.replicate 32 0x11⟩

/-- A bridge. -/
structure Bridge where
  /-- with how many votes a proposal passes -/
  threshold : Nat := 1
  handlers : List (ResourceId × Address) := [(sampleResource, fungibleHandler)]
  proposals : List (ProposalKey × ProposalRecord) := []
  /-- how often a record was read -/
  stateReads : Nat := 0
  /-- with what the next reads of a record fail -/
  readFailures : List ChainError := []

namespace Bridge

/-- The record of a proposal; an empty one if there is none. -/
def record (b : Bridge) (k : ProposalKey) : ProposalRecord := (b.proposals.lookup k).getD {}

/-- The bridge with a record of a proposal in place of an earlier one. -/
def setRecord (b : Bridge) (k : ProposalKey) (r : ProposalRecord) : Bridge :=
  { b with proposals := (k, r) :: b.proposals.filter fun entry => entry.1 ≠ k }

/-- The handler of a resource; the zero address if there is none. -/
def handler (b : Bridge) (r : ResourceId) : Address := (b.handlers.lookup r).getD Address.zero

/-- Reads the record of a proposal. -/
def readState (b : Bridge) (k : ProposalKey) : Except ChainError ProposalState × Bridge :=
  match b.readFailures with
  | e :: es => (.error e, { b with readFailures := es })
  | [] => (.ok (b.record k).state, { b with stateReads := b.stateReads + 1 })

/-- Whether a relayer's vote is recorded. -/
def hasVoted (b : Bridge) (k : ProposalKey) (relayer : Address) : Bool := (b.record k).voters.contains relayer

/-- The record after one more vote. -/
def ProposalRecord.withVote (r : ProposalRecord) (threshold : Nat) (relayer : Address) : ProposalRecord :=
  let voters := r.voters ++ [relayer]
  { status := if threshold ≤ voters.length then .passed else .active
    voters, proposedBlock := max r.proposedBlock 1 }

/-- Records a vote. A proposal that has passed or is final takes none, and a relayer votes once. -/
def vote (b : Bridge) (k : ProposalKey) (relayer : Address) : Except ChainError Bridge :=
  let r := b.record k
  match r.status with
  | .passed => .error (.reverted "proposal already passed")
  | .executed => .error (.reverted "proposal already executed")
  | .cancelled => .error (.reverted "proposal already cancelled")
  | .inactive | .active =>
      if r.voters.contains relayer then .error (.reverted "relayer already voted")
      else .ok (b.setRecord k (ProposalRecord.withVote r b.threshold relayer))

/-- Executes a proposal that has passed. -/
def execute (b : Bridge) (k : ProposalKey) : Except ChainError Bridge :=
  let r := b.record k
  match r.status with
  | .passed => .ok (b.setRecord k { r with status := .executed })
  | .executed => .error (.reverted "proposal already executed")
  | other => .error (.reverted s!"proposal not passed ({other.text})")

/-- Applies a call of a relayer. -/
def apply (b : Bridge) (relayer : Address) (c : BridgeCall) : Except ChainError Bridge :=
  match c.kind with
  | .vote => b.vote (.of c.proposal) relayer
  | .execute => b.execute (.of c.proposal)

/-- Sets the status of a proposal from outside. -/
def force (b : Bridge) (k : ProposalKey) (s : ProposalStatus) : Bridge :=
  b.setRecord k { b.record k with status := s }

/-- The proposal of a message, if its payload can be encoded. A resource without a handler counts as bound to the
handler that is known at first. -/
def proposalOf? (b : Bridge) (m : Message) : Option Proposal :=
  match Payload.encode m.transferType m.payload with
  | .ok data => some (.ofMessage m ((b.handlers.lookup m.resource).getD fungibleHandler) data)
  | .error _ => none

/-- The status of the proposal of a message. -/
def status? (b : Bridge) (m : Message) : Option ProposalStatus :=
  (b.proposalOf? m).map fun p => (b.record (.of p)).status

end Bridge

end BridgeRelay.Devnet
