import BridgeRelay.Payload

/-!
# Handler data

The byte layout that handlers emit and expect. Integers are words, and a byte string follows a word with its
length:

* fungible: amount, recipient;
* non-fungible: token, recipient, metadata;
* generic: metadata.

The metadata of a non-fungible transfer may be missing when data is read.
-/

namespace BridgeRelay.Payload

/-! ## Writing -/

/-- A payload was declared as another kind of transfer than it is. -/
structure TypeMismatch where
  declared : TransferType
  actual : TransferType
  deriving DecidableEq, Repr

/-- The text of the fault. -/
def TypeMismatch.message (e : TypeMismatch) : String :=
  s!"message declares {e.declared.text} transfer but carries a {e.actual.text} payload"

/-- A byte string after the word with its length. -/
def encodeBytes (bytes : Bytes) : Bytes := (Word.ofNat bytes.length).toBytes ++ bytes

/-- The layout of a payload. -/
def layout : Payload → Bytes
  | .fungible amount recipient => amount.toBytes ++ encodeBytes recipient
  | .nonFungible tokenId recipient metadata =>
      tokenId.toBytes ++ encodeBytes recipient ++ encodeBytes metadata
  | .generic metadata => encodeBytes metadata

/-- The layout of a payload, if it is of the kind that was declared. -/
def encode (declared : TransferType) (p : Payload) : Except TypeMismatch Bytes :=
  if p.transferType = declared then .ok p.layout else .error ⟨declared, p.transferType⟩

/-! ## Reading -/

/-- Why data does not follow the layout of its kind of transfer. -/
inductive Fault where
  | truncated (offset needed length : Nat)
  | lengthOverflow
  | trailingBytes (extra : Nat)
  deriving DecidableEq, Repr

/-- The name of the fault. -/
def Fault.name : Fault → String
  | .truncated .. => "Truncated"
  | .lengthOverflow => "LengthOverflow"
  | .trailingBytes _ => "TrailingBytes"

/-- The text of a fault found while reading data of a kind. -/
def Fault.message (t : TransferType) : Fault → String
  | .truncated offset needed length =>
      s!"{t.text} data truncated: need {needed} bytes at offset {offset}, have {length}"
  | .lengthOverflow => s!"{t.text} data has a length prefix that does not fit in memory"
  | .trailingBytes extra => s!"{t.text} data has {extra} unexpected trailing bytes"

/-- A position in data: how many bytes are read and which are left. -/
structure Cursor where
  offset : Nat
  rest : Bytes
  deriving DecidableEq

namespace Cursor

/-- The number of bytes in all. -/
def length (c : Cursor) : Nat := c.offset + c.rest.length

/-- Reads a given number of bytes. -/
def take (c : Cursor) (needed : Nat) : Except Fault (Bytes × Cursor) :=
  if c.rest.length < needed then .error (.truncated c.offset needed c.length)
  else .ok (c.rest.take needed, ⟨c.offset + needed, c.rest.drop needed⟩)

/-- Reads a word. -/
def word (c : Cursor) : Except Fault (Word × Cursor) := do
  let (bytes, c) ← c.take Word.size
  return (Word.ofBytes bytes, c)

/-- Reads a byte string after its length, which has to be below `2 ^ 64`. -/
def bytes (c : Cursor) : Except Fault (Bytes × Cursor) := do
  let (length, c) ← c.word
  if UInt64.size ≤ length.toNat then .error .lengthOverflow else c.take length.toNat

/-- Ends reading; nothing may be left. -/
def finish (c : Cursor) : Except Fault Unit :=
  if c.rest = [] then .ok () else .error (.trailingBytes c.rest.length)

end Cursor

/-- Reads the payload of a kind of transfer, without looking at what follows it. -/
def read (t : TransferType) (c : Cursor) : Except Fault (Payload × Cursor) :=
  match t with
  | .fungible => do
      let (amount, c) ← c.word
      let (recipient, c) ← c.bytes
      return (.fungible amount recipient, c)
  | .nonFungible => do
      let (tokenId, c) ← c.word
      let (recipient, c) ← c.bytes
      let (metadata, c) ← if c.rest = [] then pure ([], c) else c.bytes
      return (.nonFungible tokenId recipient metadata, c)
  | .generic => do
      let (metadata, c) ← c.bytes
      return (.generic metadata, c)

/-- Reads data that is exactly the payload of a kind of transfer. -/
def decode (t : TransferType) (data : Bytes) : Except Fault Payload := do
  let (p, c) ← read t ⟨0, data⟩
  c.finish
  return p

end BridgeRelay.Payload
