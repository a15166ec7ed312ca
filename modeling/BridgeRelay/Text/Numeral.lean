/-!
# Decimal numerals

Unsigned numerals up to a bound, and words for truth values.
-/

namespace BridgeRelay.Text

/-- Why a text is no numeral. -/
inductive NumeralFault where
  | empty
  | invalidDigit
  | tooLarge
  deriving DecidableEq, Repr

/-- The text of the fault. -/
def NumeralFault.message : NumeralFault → String
  | .empty => "cannot parse integer from empty string"
  | .invalidDigit => "invalid digit found in string"
  | .tooLarge => "number too large to fit in target type"

/-- Reads digits from the left. The first digit that is none or that carries the number beyond the bound decides. -/
def readDigits (bound : Nat) (acc : Nat) : List Char → Except NumeralFault Nat
  | [] => .ok acc
  | c :: cs =>
      if c.isDigit then
        let n := acc * 10 + (c.toNat - '0'.toNat)
        if n ≤ bound then readDigits bound n cs else .error .tooLarge
      else .error .invalidDigit

/-- Reads an unsigned numeral of at most `bound`, with an optional plus sign. -/
def readNat (bound : Nat) : List Char → Except NumeralFault Nat
  | [] => .error .empty
  | ['+'] => .error .invalidDigit
  | '+' :: cs => readDigits bound 0 cs
  | cs => readDigits bound 0 cs

/-- Reads `true` or `false`. -/
def readBool? (cs : List Char) : Option Bool :=
  if cs = "true".toList then some true else if cs = "false".toList then some false else none

end BridgeRelay.Text
