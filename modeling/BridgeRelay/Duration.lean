import BridgeRelay.Binary64

/-!
# Durations

Spans of time in whole nanoseconds, their conversion to and from seconds in floating point, and their text.
-/

namespace BridgeRelay

/-- A span of time. -/
structure Duration where
  nanos : Nat
  deriving DecidableEq, Repr, Inhabited

namespace Duration

/-- No time at all. -/
def zero : Duration := ⟨0⟩

def ofMillis (ms : Nat) : Duration := ⟨ms * 1000000⟩

def ofSeconds (s : Nat) : Duration := ⟨s * 1000000000⟩

/-- The least number of whole milliseconds that is not shorter. -/
def ceilMillis (d : Duration) : Nat := (d.nanos + 999999) / 1000000

/-- The whole milliseconds. -/
def floorMillis (d : Duration) : Nat := d.nanos / 1000000

/-- Seconds in floating point: whole seconds plus the fraction, each rounded. -/
def toSeconds (d : Duration) : Binary64 :=
  Binary64.ofNat (d.nanos / 1000000000) + Binary64.ofNat (d.nanos % 1000000000) / 1000000000

/-- Why a number of seconds is no duration. -/
inductive Fault where
  | negative
  | tooLong
  deriving DecidableEq, Repr

/-- The text of the fault. -/
def Fault.message : Fault → String
  | .negative => "cannot convert float seconds to Duration: value is negative"
  | .tooLong => "cannot convert float seconds to Duration: value is either too big or NaN"

/-- The nanosecond nearest to a number of seconds; a tie goes to the even one. -/
def ofBinary64 : Binary64 → Except Fault Duration
  | .nan | .infinite false => .error .tooLong
  | .infinite true => .error .negative
  | .finite s m e =>
      if s ∧ m ≠ 0 then .error .negative
      else
        let nanos := nearestEven (m * Nat.pow 2 e.toNat * 1000000000) (Nat.pow 2 (-e).toNat)
        if UInt64.size * 1000000000 ≤ nanos then .error .tooLong else .ok ⟨nanos⟩

/-- A fraction in `places` decimal places without zeros at its end, after a point. -/
def fractionText (places n : Nat) : String :=
  let digits := (Nat.toDigits 10 (Nat.pow 10 places + n)).drop 1
  match (digits.reverse.dropWhile (· = '0')).reverse with
  | [] => ""
  | fraction => "." ++ String.ofList fraction

/-- The duration in the largest unit of which it has at least one. -/
def text (d : Duration) : String :=
  let n := d.nanos
  if 1000000000 ≤ n then s!"{n / 1000000000}{fractionText 9 (n % 1000000000)}s"
  else if 1000000 ≤ n then s!"{n / 1000000}{fractionText 6 (n % 1000000)}ms"
  else if 1000 ≤ n then s!"{n / 1000}{fractionText 3 (n % 1000)}µs"
  else s!"{n}ns"

end Duration

end BridgeRelay
