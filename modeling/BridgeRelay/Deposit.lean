import BridgeRelay.Abi
import BridgeRelay.Chain
import BridgeRelay.Resource

/-!
# Deposits

The event that a source bridge emits, and its form in a log.
-/

namespace BridgeRelay

/-- A log as a node reports it. -/
structure DepositLog where
  topics : List Hash
  data : Bytes
  blockNumber : Option Height
  txHash : Option Hash
  logIndex : Option UInt64
  deriving DecidableEq, Inhabited

/-- What was locked or burnt on a source chain, and where it goes. -/
structure Deposit where
  destination : DomainId
  resource : ResourceId
  nonce : DepositNonce
  user : Address
  data : Bytes
  handlerResponse : Bytes
  deriving DecidableEq, Inhabited

namespace Deposit

/-- The signature of the event. -/
def signature : String := "Deposit(uint8,bytes32,uint64,address,bytes,bytes)"

/-- The first topic of every deposit. -/
def topic : Hash := Keccak.hash signature.toUTF8.toList

/-! ## Writing -/

/-- The arguments that are not indexed. -/
def items (d : Deposit) : List Abi.Item :=
  [.word (Word.ofNat d.destination.toNat), .word (Word.ofBytes d.resource.bytes.toList),
   .word (Word.ofNat d.nonce.toNat), .bytes d.data, .bytes d.handlerResponse]

/-- The topics of a deposit: the event and the user, filled up on the left. -/
def topics (d : Deposit) : List Hash := [topic, FixedBytes.ofNat 32 d.user.toNat]

/-- The log of a deposit. -/
def toLog (d : Deposit) (blockNumber : Option Height) (txHash : Option Hash) (logIndex : Option UInt64) :
    DepositLog :=
  { topics := d.topics, data := Abi.encode d.items, blockNumber, txHash, logIndex }

/-! ## Reading -/

/-- Why a log is no deposit. -/
inductive Fault where
  | missingTopic
  | otherEvent
  | outOfBounds
  deriving DecidableEq, Repr

/-- The text of the fault. -/
def Fault.message : Fault → String
  | .missingTopic => "topic list length mismatch"
  | .otherEvent => "invalid signature hash for event Deposit"
  | .outOfBounds => "buffer overrun while deserializing"

/-- The arguments in the body of a log. Of small integers only the low bytes are read. -/
def ofBody? (user : Address) (data : Bytes) : Option Deposit := do
  let destination ← Abi.word? data 0
  let resource ← Abi.word? data 1
  let nonce ← Abi.word? data 2
  let payload ← Abi.bytes? data 3
  let handlerResponse ← Abi.bytes? data 4
  return { destination := UInt8.ofNat destination.toNat
           resource := ⟨FixedBytes.ofNat 32 resource.toNat⟩
           nonce := UInt64.ofNat nonce.toNat
           user, data := payload, handlerResponse }

/-- Reads a log. Topics beyond the user and bytes to which nothing points are passed over. The relayer leaves this to a
decoder that is not part of its source, and the definition follows the documented behaviour of that decoder on data in the
standard layout. -/
def ofLog (log : DepositLog) : Except Fault Deposit :=
  match log.topics with
  | event :: user :: _ =>
      if event ≠ topic then .error .otherEvent
      else match ofBody? (FixedBytes.ofNat 20 user.toNat) log.data with
        | some d => .ok d
        | none => .error .outOfBounds
  | _ => .error .missingTopic

end Deposit

end BridgeRelay
