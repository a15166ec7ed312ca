import BridgeRelay.Keccak
import BridgeRelay.Message

/-!
# Proposals

A transfer as the bridge of its destination sees it, and the state of the vote on it.
-/

namespace BridgeRelay

/-! ## Status -/

/-- How far a proposal has come on its bridge. -/
inductive ProposalStatus where
  | inactive
  | active
  | passed
  | executed
  | cancelled
  deriving DecidableEq, Repr, Inhabited

namespace ProposalStatus

def all : List ProposalStatus := [inactive, active, passed, executed, cancelled]

/-- Whether a proposal accepts no further action. -/
def isTerminal : ProposalStatus → Bool
  | executed | cancelled => true
  | _ => false

/-- The word for a status in messages. -/
def text : ProposalStatus → String
  | inactive => "inactive"
  | active => "active"
  | passed => "passed"
  | executed => "executed"
  | cancelled => "cancelled"

/-- The name under which a status is stored. -/
def name : ProposalStatus → String
  | inactive => "Inactive"
  | active => "Active"
  | passed => "Passed"
  | executed => "Executed"
  | cancelled => "Cancelled"

/-- The status that is stored under a name. -/
def ofName? (s : String) : Option ProposalStatus := all.find? fun t => t.name = s

/-- The status that a bridge stores as a byte. -/
def ofByte? (b : UInt8) : Option ProposalStatus := all[b.toNat]?

@[simp] theorem ofName?_name (s : ProposalStatus) : ofName? s.name = some s := by
  cases s <;> decide +kernel

end ProposalStatus

/-- The record that a bridge keeps of a proposal. -/
structure ProposalState where
  status : ProposalStatus
  yesVotes : UInt8
  proposedBlock : UInt64
  deriving DecidableEq, Repr

/-- The record of a proposal of which a bridge knows nothing. -/
def ProposalState.inactive : ProposalState := ⟨.inactive, 0, 0⟩

/-! ## Identity -/

/-- A transfer with the handler and the data that its destination executes. -/
structure Proposal where
  origin : DomainId
  nonce : DepositNonce
  resource : ResourceId
  handler : Address
  data : Bytes
  metadata : MessageMetadata
  deriving DecidableEq, Inhabited

namespace Proposal

/-- The proposal of a message whose data is encoded. -/
def ofMessage (m : Message) (handler : Address) (data : Bytes) : Proposal :=
  { origin := m.source, nonce := m.nonce, resource := m.resource, handler, data, metadata := m.metadata }

/-- The bytes whose hash identifies the data: the handler and the data behind it. -/
def hashInput (handler : Address) (data : Bytes) : Bytes := handler.toList ++ data

/-- The hash under which a bridge counts the votes for data that a handler executes. -/
def hashOf (handler : Address) (data : Bytes) : Hash := Keccak.hash (hashInput handler data)

/-- The hash under which a bridge counts votes. -/
def dataHash (p : Proposal) : Hash := hashOf p.handler p.data

/-- The nonce above the eight bits of the origin, as votes are keyed. -/
def nonceAndId (p : Proposal) : Nat := p.nonce.toNat * 256 + p.origin.toNat

end Proposal

end BridgeRelay
