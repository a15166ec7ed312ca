import BridgeRelay.Hex
import BridgeRelay.Text.Character

/-!
# Resource identifiers

The 32-byte key that binds a transfer to a handler and an asset, and its text.
-/

namespace BridgeRelay

/-- The key of a resource. -/
structure ResourceId where
  bytes : FixedBytes 32
  deriving DecidableEq, Inhabited

namespace ResourceId

/-- The text of a resource: `0x` and 64 lower-case digits. -/
def text (r : ResourceId) : String := Hex.encode r.bytes.toList

/-- Reads 64 digits of either case after at most one `0x`. -/
def ofText (s : String) : Except Hex.Fault ResourceId :=
  (Hex.decodeFixed 32 (Hex.withoutMark s)).map ResourceId.mk

/-- What is said of a text that is no resource. -/
def faultMessage : Hex.Fault → String
  | .oddLength => "Odd number of digits"
  | .wrongLength => "Invalid string length"
  | .invalid b i => s!"Invalid character {Text.quoteByte b} at position {i}"

/-- The resource of zeros. -/
def zero : ResourceId := ⟨FixedBytes.zero⟩

end ResourceId

end BridgeRelay
