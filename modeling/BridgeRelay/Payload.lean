import BridgeRelay.Word

/-!
# Transfers

What a deposit moves: a fungible amount, a single token, or arbitrary data for a handler.
-/

namespace BridgeRelay

/-- The kind of a transfer. -/
inductive TransferType where
  | fungible
  | nonFungible
  | generic
  deriving DecidableEq, Repr, Inhabited

namespace TransferType

/-- The word for the kind in messages. -/
def text : TransferType → String
  | .fungible => "fungible"
  | .nonFungible => "nonfungible"
  | .generic => "generic"

/-- The name under which the kind is stored. -/
def name : TransferType → String
  | .fungible => "Fungible"
  | .nonFungible => "NonFungible"
  | .generic => "Generic"

/-- The kind that is stored under a name. -/
def ofName? (s : String) : Option TransferType :=
  [fungible, nonFungible, generic].find? fun t => t.name = s

@[simp] theorem ofName?_name (t : TransferType) : ofName? t.name = some t := by
  cases t <;> decide +kernel

end TransferType

/-- What is transferred and to whom. -/
inductive Payload where
  | fungible (amount : Word) (recipient : Bytes)
  | nonFungible (tokenId : Word) (recipient metadata : Bytes)
  | generic (metadata : Bytes)
  deriving DecidableEq, Inhabited

/-- The kind of transfer that a payload belongs to. -/
def Payload.transferType : Payload → TransferType
  | .fungible .. => .fungible
  | .nonFungible .. => .nonFungible
  | .generic .. => .generic

end BridgeRelay
