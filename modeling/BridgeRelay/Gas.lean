import BridgeRelay.Binary64

/-!
# Gas prices

Prices in wei are bounded 128-bit numbers, and arithmetic on them saturates at the bound.
-/

namespace BridgeRelay

/-! ## Amounts -/

/-- The largest amount. -/
def Wei.bound : Nat := 340282366920938463463374607431768211455

/-- An amount of wei. -/
structure Wei where
  toNat : Nat
  le_bound : toNat ≤ Wei.bound
  deriving DecidableEq

namespace Wei

/-- The amount nearest to a number from below: the number itself or the largest amount. -/
def ofNat (n : Nat) : Wei := ⟨min n bound, Nat.min_le_right _ _⟩

instance : Inhabited Wei := ⟨ofNat 0⟩

instance (n : Nat) : OfNat Wei n := ⟨ofNat n⟩

/-- The sum, or the largest amount. -/
def add (a b : Wei) : Wei := ofNat (a.toNat + b.toNat)

/-- The product, or the largest amount. -/
def mul (a : Wei) (n : Nat) : Wei := ofNat (a.toNat * n)

/-- The quotient, rounded down. -/
def div (a : Wei) (n : Nat) : Wei :=
  ⟨a.toNat / n, Nat.le_trans (Nat.div_le_self _ _) a.le_bound⟩

/-- The difference, or zero. -/
def sub (a b : Wei) : Wei := ⟨a.toNat - b.toNat, Nat.le_trans (Nat.sub_le _ _) a.le_bound⟩

/-- The smaller amount. -/
def least (a b : Wei) : Wei := if a.toNat ≤ b.toNat then a else b

@[ext] theorem ext {a b : Wei} (h : a.toNat = b.toNat) : a = b := by
  cases a; cases b; simp_all

@[simp] theorem toNat_least (a b : Wei) : (a.least b).toNat = min a.toNat b.toNat := by
  simp only [least]
  split <;> omega

@[simp] theorem toNat_ofNat (n : Nat) : (ofNat n).toNat = min n bound := rfl

/-- The amount scaled in floating point and rounded down. -/
def scale (a : Wei) (multiplier : Binary64) : Wei :=
  ofNat ((Binary64.ofNat a.toNat * multiplier).toNat bound)

/-- The amount, or the ceiling if there is one and it is lower. -/
def clamp (a : Wei) : (ceiling : Option Wei) → Wei
  | some ceiling => a.least ceiling
  | none => a

end Wei

/-! ## Prices -/

/-- The price that a transaction offers. -/
inductive GasPrice where
  /-- one price per unit of gas -/
  | legacy (price : Wei)
  /-- a ceiling for the whole fee and the part that goes to the block's producer -/
  | feePair (maxFee tip : Wei)
  deriving DecidableEq

namespace GasPrice

/-- An amount raised by some percent, but not above the ceiling. -/
def raise (percent : Nat) (ceiling : Option Wei) (a : Wei) : Wei :=
  ((a.mul (100 + percent)).div 100).clamp ceiling

/-- The price raised by some percent. A tip stays at or below the fee. -/
def bumped (p : GasPrice) (percent : Nat) (ceiling : Option Wei) : GasPrice :=
  match p with
  | .legacy price => .legacy (raise percent ceiling price)
  | .feePair maxFee tip =>
      let maxFee := raise percent ceiling maxFee
      .feePair maxFee ((raise percent ceiling tip).least maxFee)

/-- The price raised a number of times. -/
def bumpedTimes (p : GasPrice) (times percent : Nat) (ceiling : Option Wei) : GasPrice :=
  times.repeat (fun p => p.bumped percent ceiling) p

end GasPrice

/-! ## Settings -/

/-- The fee model of a chain. -/
inductive GasPricing where
  | static
  | london
  deriving DecidableEq, Repr, Inhabited

namespace GasPricing

/-- The name of the model. -/
def name : GasPricing → String
  | static => "Static"
  | london => "London"

/-- The model that a word names, in any case of ASCII letters, or what is said of another word. -/
def ofText (s : String) : Except String GasPricing :=
  let word := String.ofList (s.toList.map Char.toLower)
  if word = "static" ∨ word = "legacy" then .ok static
  else if word = "london" ∨ word = "eip1559" then .ok london
  else .error s!"unknown gas pricing '{word}', expected static or london"

end GasPricing

/-- How a node's suggestion becomes a price. -/
structure GasSettings where
  multiplier : Binary64 := 1
  ceiling : Option Wei := none
  deriving DecidableEq

namespace GasSettings

/-- Scales a suggestion and keeps it below the ceiling. -/
def apply (s : GasSettings) (price : Wei) : Wei := (price.scale s.multiplier).clamp s.ceiling

/-- The fee pair for a base fee and a suggested tip: the ceiling leaves room for the base fee to double.
A tip never exceeds what the ceiling leaves above the base fee. -/
def feePair (s : GasSettings) (baseFee tip : Wei) : GasPrice :=
  let tip := tip.scale s.multiplier
  let maxFee := (((baseFee.mul 2).scale s.multiplier).add tip).clamp s.ceiling
  .feePair maxFee ((tip.least (maxFee.sub baseFee)).least maxFee)

end GasSettings

end BridgeRelay
