/-!
# Characters written in ASCII

Reading a label whose characters beyond ASCII are written behind the others, as numbers that say which character is to
be put in and where.
-/

namespace BridgeRelay.Url.HostName.Bootstring

/-- The value of a digit: letters of either case, and behind them the ten digits. -/
def digit? (c : Char) : Option Nat :=
  if c.isLower then some (c.toNat - 'a'.toNat)
  else if c.isUpper then some (c.toNat - 'A'.toNat)
  else if c.isDigit then some (c.toNat - '0'.toNat + 26)
  else none

/-- The least digit that does not end a number, at a place that counts by 36 from 36 on. -/
def threshold (place bias : Nat) : Nat :=
  if place ≤ bias then 1 else if bias + 26 ≤ place then 26 else place - bias

/-- Divides a distance until it is small, and counts how often by 36. -/
def scaleDown (distance count : Nat) : Nat × Nat :=
  if 455 < distance then scaleDown (distance / 35) (count + 36) else (distance, count)
termination_by distance
decreasing_by exact Nat.div_lt_self (by omega) (by omega)

/-- The bias of the next number, after one that said a distance and made the label so long. -/
def adapt (distance length : Nat) (isFirst : Bool) : Nat :=
  let near := if isFirst then distance / 700 else distance / 2
  let (near, count) := scaleDown (near + near / length) 0
  count + 36 * near / (near + 38)

/-- Reads a number of digits, the least one first, and adds it to `sum`: the sum with what is left. Neither the sum nor
a weight may pass 32 bits. -/
def number? (bias place weight sum : Nat) : List Char → Option (Nat × List Char)
  | [] => none
  | c :: cs => do
      let d ← digit? c
      let sum := sum + d * weight
      let t := threshold place bias
      if UInt32.size ≤ sum then none
      else if d < t then some (sum, cs)
      else if UInt32.size ≤ weight * (36 - t) then none
      else number? bias (place + 36) (weight * (36 - t)) sum cs

/-- Puts characters into a label. The sum says the next character and its place: a place past the end leads to the
beginning, and to the next character. Each number takes at least one digit, so `fuel` may be the number of digits. -/
def insertAll? (bias least sum : Nat) (label : List Char) : (fuel : Nat) → List Char → Option (List Char)
  | _, [] => some label
  | 0, _ :: _ => none
  | fuel + 1, c :: cs => do
      let (total, rest) ← number? bias 36 1 sum (c :: cs)
      let length := label.length + 1
      let n := least + total / length
      if n.isValidChar then
        insertAll? (adapt (total - sum) length (sum = 0)) n (total % length + 1)
          (label.insertIdx (total % length) (Char.ofNat n)) fuel rest
      else none

/-- Reads a label: before the last hyphen what is in ASCII, and behind it the numbers. A hyphen in front has nothing
before it, and is none of the digits. -/
def decode? (cs : List Char) : Option (List Char) :=
  let digits := (cs.reverse.takeWhile (· ≠ '-')).reverse
  let basic := cs.take (cs.length - digits.length - 1)
  if basic = [] ∧ digits ≠ cs then none else insertAll? 72 128 0 basic digits.length digits

end BridgeRelay.Url.HostName.Bootstring
