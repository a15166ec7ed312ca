import BridgeRelay.Hex
import BridgeRelay.Keccak
import BridgeRelay.Text.Character

/-!
# Address text

Reading addresses, and the mixed-case form whose capitals are a checksum.
-/

namespace BridgeRelay.Address

/-- Reads 40 digits of either case after at most one `0x` or `0X`. Which texts are addresses is decided by a library that
is not part of the relayer's source, and the definition follows its documented behaviour. -/
def ofText (s : String) : Except Hex.Fault Address := Hex.decodeFixed 20 (Hex.withoutAnyMark s)

/-- What is said of a text that is no address. -/
def faultMessage : Hex.Fault → String
  | .oddLength => "odd number of digits"
  | .wrongLength => "invalid string length"
  | .invalid b i => s!"invalid character {Text.quoteByte b} at position {i}"

/-- The address in lower case. -/
def text (a : Address) : String := Hex.encode a.toList

/-- The address with a letter in capitals where the digit of the hash of its lower-case digits is 8 or more. -/
def checksummed (a : Address) : String :=
  let digits := Hex.digits a.toList
  let marks := (Keccak.hash (digits.map fun c => UInt8.ofNat c.toNat)).toList.flatMap fun b =>
    [b.toNat / 16, b.toNat % 16]
  "0x" ++ String.ofList (digits.zipWith (fun c mark => if 8 ≤ mark then c.toUpper else c) marks)

end BridgeRelay.Address
