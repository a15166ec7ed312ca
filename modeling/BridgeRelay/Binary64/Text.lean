import BridgeRelay.Binary64

/-!
# Decimal text of floating-point numbers

Printing writes the fewest digits that read back, always positionally. Reading takes digits with an optional
point and exponent and rounds the decimal once.
-/

namespace BridgeRelay.Binary64

/-! ## Printing -/

/-- The largest `k` with `10 ^ k ≤ num / den`, for positive arguments. -/
def floorLog10 (num den : Nat) : Int :=
  let k := floorLog2 num den * 30103 / 100000
  if den * Nat.pow 10 (k + 1).toNat ≤ num * Nat.pow 10 (-(k + 1)).toNat then k + 1 else k

/-- The decimals `c * 10 ^ p` that read back as the number lie between `low / den` and `high / den`. -/
structure Interval where
  low : Nat
  value : Nat
  high : Nat
  den : Nat
  /-- whether the ends themselves read back -/
  closed : Bool

/-- The reals that round to `m * 2 ^ e`: half a step up, and half a step down to the next smaller number. -/
def interval (m : Nat) (e : Int) : Interval :=
  let scale := Nat.pow 2 (e - 2).toNat
  let narrow := m = Nat.pow 2 52 ∧ minExponent < e
  { low := (if narrow then 4 * m - 1 else 4 * m - 2) * scale
    value := 4 * m * scale
    high := (4 * m + 2) * scale
    den := Nat.pow 2 (2 - e).toNat
    closed := m % 2 = 0 }

/-- Whether `c * 10 ^ p` lies in the interval. -/
def Interval.contains (i : Interval) (c : Nat) (p : Int) : Bool :=
  let point := c * Nat.pow 10 p.toNat * i.den
  let low := i.low * Nat.pow 10 (-p).toNat
  let high := i.high * Nat.pow 10 (-p).toNat
  if i.closed then low ≤ point && point ≤ high else low < point && point < high

/-- Of the value's two neighbours on the grid of step `10 ^ p`, the nearer one that reads back. -/
def Interval.onGrid? (i : Interval) (p : Int) : Option Nat :=
  let num := i.value * Nat.pow 10 (-p).toNat
  let den := i.den * Nat.pow 10 p.toNat
  let c := num / den
  match i.contains c p, i.contains (c + 1) p with
  | true, true => some (nearestEven num den)
  | true, false => some c
  | false, true => some (c + 1)
  | false, false => none

/-- The first grid, from coarse to fine, that has a point which reads back. -/
def Interval.shortest (i : Interval) (p : Int) : (finer : Nat) → Nat × Int
  | 0 => (i.value * Nat.pow 10 (-p).toNat / (i.den * Nat.pow 10 p.toNat), p)
  | finer + 1 =>
      match i.onGrid? p with
      | some c => (c, p)
      | none => i.shortest (p - 1) finer

/-- Drops zeros at the end of a fraction. -/
def trimZeros (fraction : List Char) : List Char := (fraction.reverse.dropWhile (· = '0')).reverse

/-- `c * 10 ^ p` in positional form, without zeros at the end of a fraction. -/
def positional (c : Nat) (p : Int) : List Char :=
  let digits := Nat.toDigits 10 c
  if 0 ≤ p then digits ++ List.replicate p.toNat '0'
  else
    let places := (-p).toNat
    let padded := List.replicate (places + 1 - digits.length) '0' ++ digits
    let whole := padded.take (padded.length - places)
    match trimZeros (padded.drop (padded.length - places)) with
    | [] => whole
    | fraction => whole ++ '.' :: fraction

/-- The text of a number: the fewest digits that read back, in positional form. -/
def text : Binary64 → String
  | .nan => "NaN"
  | .infinite s => if s then "-inf" else "inf"
  | .finite s m e =>
      let magnitude :=
        if m = 0 then ['0']
        else
          let i := interval m e
          let (c, p) := i.shortest (floorLog10 i.value i.den) 17
          positional c p
      String.ofList (if s then '-' :: magnitude else magnitude)

/-! ## Reading -/

/-- Why a text is no number. -/
inductive TextFault where
  | empty
  | invalid
  deriving DecidableEq, Repr

/-- The text of the fault. -/
def TextFault.message : TextFault → String
  | .empty => "cannot parse float from empty string"
  | .invalid => "invalid float literal"

/-- The number that a run of decimal digits spells. -/
def digitsToNat (digits : List Char) : Nat :=
  digits.foldl (fun n c => n * 10 + (c.toNat - '0'.toNat)) 0

/-- An optional sign and what follows it. -/
def splitSign : List Char → Bool × List Char
  | '-' :: rest => (true, rest)
  | '+' :: rest => (false, rest)
  | cs => (false, cs)

/-- The exponent after the digits: nothing, or `e` with an optional sign and at least one digit. -/
def readExponent? : List Char → Option Int
  | [] => some 0
  | c :: rest =>
      if c = 'e' ∨ c = 'E' then
        let (negative, digits) := splitSign rest
        if digits ≠ [] ∧ digits.all Char.isDigit then
          some (if negative then -digitsToNat digits else digitsToNat digits)
        else none
      else none

/-- Digits with an optional point, at least one of them, and an optional exponent. -/
def readDecimal? (negative : Bool) (cs : List Char) : Option Binary64 := do
  let whole := cs.takeWhile Char.isDigit
  let rest := cs.dropWhile Char.isDigit
  let (fraction, rest) := match rest with
    | '.' :: rest => (rest.takeWhile Char.isDigit, rest.dropWhile Char.isDigit)
    | rest => ([], rest)
  guard (whole ++ fraction ≠ [])
  let exponent ← readExponent? rest
  return ofDecimal negative (digitsToNat (whole ++ fraction)) (exponent - fraction.length)

/-- Reads a number. Besides decimals, `inf`, `infinity` and `nan` are read in any case. -/
def ofText (cs : List Char) : Except TextFault Binary64 :=
  if cs = [] then .error .empty
  else
    let (negative, body) := splitSign cs
    let word := String.ofList (body.map Char.toLower)
    if word = "inf" ∨ word = "infinity" then .ok (.infinite negative)
    else if word = "nan" then .ok .nan
    else match readDecimal? negative body with
      | some x => .ok x
      | none => .error .invalid

end BridgeRelay.Binary64
