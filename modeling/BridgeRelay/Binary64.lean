/-!
# Binary floating point

The 64-bit format of IEEE 754 with exact arithmetic: each operation computes the exact quotient of two
natural numbers and rounds it once, to nearest with ties to even.
-/

namespace BridgeRelay

/-! ## Rounding of quotients -/

/-- The integer nearest to `num / den`; a tie goes to the even neighbour. -/
def nearestEven (num den : Nat) : Nat :=
  let floor := num / den
  let rest := num % den
  if 2 * rest < den then floor
  else if den < 2 * rest then floor + 1
  else if floor % 2 = 0 then floor else floor + 1

/-- The result is the floor of the quotient or the next integer. -/
theorem nearestEven_eq (num den : Nat) :
    nearestEven num den = num / den ∨ nearestEven num den = num / den + 1 := by
  simp only [nearestEven]
  split
  · exact .inl rfl
  · split
    · exact .inr rfl
    · split
      · exact .inl rfl
      · exact .inr rfl

/-! ## Numbers -/

/-- A double-precision number. `finite s m e` stands for `m * 2 ^ e`, negated if `s`. -/
inductive Binary64 where
  | nan
  | infinite (negative : Bool)
  | finite (negative : Bool) (significand : Nat) (exponent : Int)
  deriving DecidableEq, Repr, Inhabited

namespace Binary64

/-- The exponent of the smallest positive number. -/
def minExponent : Int := -1074

/-- The exponent of the largest finite number. -/
def maxExponent : Int := 971

/-- The largest `l` with `2 ^ l ≤ num / den`, for positive arguments. -/
def floorLog2 (num den : Nat) : Int :=
  let l : Int := num.log2 - den.log2
  if num * Nat.pow 2 (-l).toNat < den * Nat.pow 2 l.toNat then l - 1 else l

/-- The number nearest to `num / den`, negated if `negative`. Too large a quotient becomes infinite. -/
def round (negative : Bool) (num den : Nat) : Binary64 :=
  if num = 0 then .finite negative 0 minExponent
  else
    let e := max (floorLog2 num den - 52) minExponent
    let m := nearestEven (num * Nat.pow 2 (-e).toNat) (den * Nat.pow 2 e.toNat)
    let carried := m = Nat.pow 2 53
    let e := if carried then e + 1 else e
    if maxExponent < e then .infinite negative
    else .finite negative (if carried then Nat.pow 2 52 else m) e

/-- The number nearest to `num * 2 ^ e / den`. -/
def roundScaled (negative : Bool) (num den : Nat) (e : Int) : Binary64 :=
  round negative (num * Nat.pow 2 e.toNat) (den * Nat.pow 2 (-e).toNat)

/-- The number nearest to a natural number. -/
def ofNat (n : Nat) : Binary64 := round false n 1

/-- The number nearest to an integer. -/
def ofInt (n : Int) : Binary64 := round (n < 0) n.natAbs 1

/-- The number nearest to `digits * 10 ^ exponent`. Exponents far out of range are settled by size alone. -/
def ofDecimal (negative : Bool) (digits : Nat) (exponent : Int) : Binary64 :=
  if digits = 0 then .finite negative 0 minExponent
  else if 310 < exponent then .infinite negative
  else if exponent + (digits.log2 / 3 : Nat) + 1 < -330 then .finite negative 0 minExponent
  else round negative (digits * Nat.pow 10 exponent.toNat) (Nat.pow 10 (-exponent).toNat)

instance (n : Nat) : OfNat Binary64 n := ⟨ofNat n⟩

/-! ## Arithmetic -/

/-- The product, rounded once. -/
def mul : Binary64 → Binary64 → Binary64
  | .nan, _ | _, .nan => .nan
  | .infinite s, .infinite t => .infinite (s ^^ t)
  | .infinite s, .finite t n _ => if n = 0 then .nan else .infinite (s ^^ t)
  | .finite s m _, .infinite t => if m = 0 then .nan else .infinite (s ^^ t)
  | .finite s m e, .finite t n f => roundScaled (s ^^ t) (m * n) 1 (e + f)

/-- The quotient, rounded once. -/
def div : Binary64 → Binary64 → Binary64
  | .nan, _ | _, .nan => .nan
  | .infinite _, .infinite _ => .nan
  | .infinite s, .finite t _ _ => .infinite (s ^^ t)
  | .finite s _ _, .infinite t => .finite (s ^^ t) 0 minExponent
  | .finite s m e, .finite t n f =>
      if n = 0 then if m = 0 then .nan else .infinite (s ^^ t)
      else roundScaled (s ^^ t) m n (e - f)

/-- The signed multiple of `2 ^ e` that a significand with exponent `f` stands for, if `e ≤ f`. -/
def aligned (negative : Bool) (m : Nat) (f e : Int) : Int :=
  let n : Int := m * Nat.pow 2 (f - e).toNat
  if negative then -n else n

/-- The sum, rounded once. A sum of zero is negative only if both terms are. -/
def add : Binary64 → Binary64 → Binary64
  | .nan, _ | _, .nan => .nan
  | .infinite s, .infinite t => if s = t then .infinite s else .nan
  | .infinite s, .finite .. => .infinite s
  | .finite .., .infinite t => .infinite t
  | .finite s m e, .finite t n f =>
      let g := min e f
      let sum := aligned s m e g + aligned t n f g
      if sum = 0 then .finite (s && t) 0 minExponent
      else roundScaled (sum < 0) sum.natAbs 1 g

instance : Mul Binary64 := ⟨mul⟩
instance : Div Binary64 := ⟨div⟩
instance : Add Binary64 := ⟨add⟩

/-- Whether the first number is below the second; nothing is below or above what is not a number. -/
def less : Binary64 → Binary64 → Bool
  | .nan, _ | _, .nan => false
  | .infinite s, .infinite t => s && !t
  | .infinite s, .finite .. => s
  | .finite .., .infinite t => !t
  | .finite s m e, .finite t n f =>
      let g := min e f
      aligned s m e g < aligned t n f g

/-- The smaller of two numbers. What is not a number is passed over. -/
def least : Binary64 → Binary64 → Binary64
  | .nan, y => y
  | x, .nan => x
  | x, y => if less y x then y else x

/-- Whether a number is finite and above zero. -/
def isPositive : Binary64 → Bool
  | .finite false m _ => m ≠ 0
  | _ => false

/-! ## Conversions -/

/-- The integral part between zero and `bound`. What is not a number gives zero. -/
def toNat (bound : Nat) : Binary64 → Nat
  | .nan | .infinite true | .finite true _ _ => 0
  | .infinite false => bound
  | .finite false m e => min bound (m * Nat.pow 2 e.toNat / Nat.pow 2 (-e).toNat)

/-- The number of the format's 64 bits. -/
def toBits (x : Binary64) : Nat :=
  let sign (negative : Bool) : Nat := if negative then Nat.pow 2 63 else 0
  match x with
  | .nan => 0x7ff8000000000000
  | .infinite s => sign s + 0x7ff0000000000000
  | .finite s m e => sign s + if m < Nat.pow 2 52 then m else (e + 1075).toNat * Nat.pow 2 52 + (m - Nat.pow 2 52)

end Binary64

/-! ## Powers -/

/-- `acc * base ^ n` by binary powering: the base is squared only while digits of `n` are left. -/
def binaryPower {α : Type} [Mul α] (acc base : α) (n : Nat) : α :=
  let acc := if n % 2 = 1 then acc * base else acc
  if n < 2 then acc else binaryPower acc (base * base) (n / 2)
termination_by n

/-- An integral power; a negative exponent takes the reciprocal of the power at the end. -/
def integralPower {α : Type} [Mul α] [Div α] [OfNat α 1] (base : α) (n : Int) : α :=
  let power := binaryPower 1 base n.natAbs
  if n < 0 then 1 / power else power

end BridgeRelay
