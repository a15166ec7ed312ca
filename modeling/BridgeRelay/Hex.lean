import BridgeRelay.Bytes

/-!
# Hexadecimal text

Printing bytes as lower-case digits, and reading text of a known length with the fault that stands first.
-/

namespace BridgeRelay.Hex

/-- The lower-case digit of a value below 16. -/
def digit (n : Nat) : Char :=
  if n < 10 then Char.ofNat ('0'.toNat + n) else Char.ofNat ('a'.toNat + (n - 10))

/-- Two digits for each byte. -/
def digits (bytes : Bytes) : List Char :=
  bytes.flatMap fun b => [digit (b.toNat / 16), digit (b.toNat % 16)]

/-- The digits after `0x`. -/
def encode (bytes : Bytes) : String := "0x" ++ String.ofList (digits bytes)

/-- The value of a digit of either case, given as an ASCII byte. -/
def value? (b : UInt8) : Option Nat :=
  if 48 ≤ b ∧ b ≤ 57 then some (b.toNat - 48)
  else if 97 ≤ b ∧ b ≤ 102 then some (b.toNat - 87)
  else if 65 ≤ b ∧ b ≤ 70 then some (b.toNat - 55)
  else none

/-- Why a text is no hexadecimal numeral of the length asked for. -/
inductive Fault where
  | oddLength
  | wrongLength
  | invalid (byte : UInt8) (position : Nat)
  deriving DecidableEq, Repr

/-- The values of the digits, or the first byte that is none. -/
def values (position : Nat) : Bytes → Except Fault (List Nat)
  | [] => .ok []
  | b :: rest =>
      match value? b with
      | none => .error (.invalid b position)
      | some v => (values (position + 1) rest).map (v :: ·)

/-- Joins two digits to a byte. A digit left over is dropped. -/
def pairs : List Nat → Bytes
  | high :: low :: rest => UInt8.ofNat (high * 16 + low) :: pairs rest
  | _ => []

/-- Reads exactly `size` bytes. An odd length is found first, then a wrong one, then a bad digit. The relayer leaves this
to a library that is not part of its source, and the definition follows the documented behaviour of that library. -/
def decode (size : Nat) (text : Bytes) : Except Fault Bytes :=
  if text.length % 2 = 1 then .error .oddLength
  else if text.length ≠ 2 * size then .error .wrongLength
  else (values 0 text).map pairs

/-- Reads exactly `size` bytes as a byte string of that length. -/
def decodeFixed (size : Nat) (text : Bytes) : Except Fault (FixedBytes size) := do
  match FixedBytes.ofList? size (← decode size text) with
  | some bytes => .ok bytes
  | none => .error .wrongLength

/-- The text as bytes, without one leading `0x`. -/
def withoutMark (text : String) : Bytes :=
  match text.toUTF8.toList with
  | 48 :: 120 :: rest => rest
  | bytes => bytes

/-- The text as bytes, without one leading `0x` or `0X`. -/
def withoutAnyMark (text : String) : Bytes :=
  match text.toUTF8.toList with
  | 48 :: x :: rest => if x = 120 ∨ x = 88 then rest else 48 :: x :: rest
  | bytes => bytes

end BridgeRelay.Hex
