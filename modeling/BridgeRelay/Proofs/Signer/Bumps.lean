import BridgeRelay.Proofs.Signer.Pricing

/-!
# Bumped prices

What a bump makes of a price. The product of an amount and a percentage saturates before it is divided by a hundred, and
the quotient is rounded down. So a bump moves the amounts between two bounds: below the first the percentage makes less
than one wei, and above the second a bump lowers the amount.
-/

namespace BridgeRelay

variable {percent : Nat} {ceiling : Option Wei} {a : Wei} {p : GasPrice}

/-! ## Amounts -/

namespace Wei

/-- The highest amount that a ceiling allows. -/
def limit (ceiling : Option Wei) : Wei := ceiling.getD ⟨bound, Nat.le_refl _⟩

@[simp] theorem toNat_clamp : (a.clamp ceiling).toNat = min a.toNat (limit ceiling).toNat := by
  cases ceiling with
  | none => exact (Nat.min_eq_left a.le_bound).symm
  | some m => exact toNat_least a m

/-- Does not fall, and rises unless it was zero or is at a limit now. -/
def Rises (limits : Wei → Prop) (a b : Wei) : Prop :=
  a.toNat ≤ b.toNat ∧ (0 < a.toNat → a.toNat < b.toNat ∨ limits b)

/-- A bump moves the amount: the percentage makes at least one wei, and no more than the largest amount comes of it. An
amount at the ceiling need only stay there. -/
def Moves (percent : Nat) (ceiling : Option Wei) (a : Wei) : Prop :=
  100 ≤ a.toNat * percent ∧ 100 * (a.toNat + 1) ≤ bound ∨ ceiling = some a ∧ 100 * a.toNat ≤ bound

end Wei

namespace GasPrice

theorem toNat_raise : (raise percent ceiling a).toNat =
    min (min (a.toNat * (100 + percent)) Wei.bound / 100) (Wei.limit ceiling).toNat := by
  simp only [raise, Wei.toNat_clamp, Wei.div, Wei.mul, Wei.toNat_ofNat]

theorem raise_le_raise {b : Wei} (h : a.toNat ≤ b.toNat) :
    (raise percent ceiling a).toNat ≤ (raise percent ceiling b).toNat := by
  have product := Nat.mul_le_mul_right (100 + percent) h
  simp only [toNat_raise]
  omega

theorem le_raise_iff (h : a.toNat ≤ (Wei.limit ceiling).toNat) :
    a.toNat ≤ (raise percent ceiling a).toNat ↔ 100 * a.toNat ≤ Wei.bound := by
  have product := Nat.mul_add a.toNat 100 percent
  simp only [toNat_raise]
  omega

theorem lt_raise_iff : a.toNat < (raise percent ceiling a).toNat ↔
    100 ≤ a.toNat * percent ∧ 100 * (a.toNat + 1) ≤ Wei.bound ∧ a.toNat < (Wei.limit ceiling).toNat := by
  have product := Nat.mul_add a.toNat 100 percent
  simp only [toNat_raise]
  omega

theorem eq_raise_of_limit (h : (Wei.limit ceiling).toNat ≤ (raise percent ceiling a).toNat)
    (below : (Wei.limit ceiling).toNat < Wei.bound) : ceiling = some (raise percent ceiling a) := by
  cases ceiling with
  | none => exact absurd below (Nat.lt_irrefl _)
  | some m =>
      have : (raise percent (some m) a).toNat ≤ m.toNat := Wei.clamp_le _
      exact congrArg some (Wei.ext (Nat.le_antisymm h this))

theorem rises_raise_iff (h : a.toNat ≤ (Wei.limit ceiling).toNat) :
    a.Rises (ceiling = some ·) (raise percent ceiling a) ↔ (0 < a.toNat → a.Moves percent ceiling) := by
  constructor
  · rintro ⟨kept, rises⟩ positive
    have small := (le_raise_iff h).mp kept
    by_cases moved : a.toNat < (raise percent ceiling a).toNat
    · obtain ⟨one, room, -⟩ := lt_raise_iff.mp moved
      exact .inl ⟨one, room⟩
    · -- what did not move is at the ceiling, as it was before
      have same : raise percent ceiling a = a := Wei.ext (by omega)
      have top := (rises positive).resolve_left moved
      rw [same] at top
      exact .inr ⟨top, small⟩
  · intro moves
    have small : 100 * a.toNat ≤ Wei.bound := by
      rcases Nat.eq_zero_or_pos a.toNat with zero | positive
      · simp [zero]
      · rcases moves positive with ⟨-, room⟩ | ⟨-, small⟩ <;> omega
    refine ⟨(le_raise_iff h).mpr small, fun positive => ?_⟩
    rcases moves positive with ⟨one, room⟩ | ⟨rfl, -⟩
    · rcases Nat.lt_or_eq_of_le h with below | top
      · exact .inl (lt_raise_iff.mpr ⟨one, room, below⟩)
      · refine .inr (eq_raise_of_limit ?_ (by omega))
        rw [← top]
        exact (le_raise_iff h).mpr small
    · have below : a.toNat < Wei.bound := by omega
      exact .inr (eq_raise_of_limit ((le_raise_iff h).mpr small) below)

/-! ## Prices -/

/-- The amounts of a price. -/
def amounts : GasPrice → List Wei
  | .legacy price => [price]
  | .feePair maxFee tip => [maxFee, tip]

/-- Each amount rises, but not above the ceiling and a tip not above the fee. -/
def Rises (ceiling : Option Wei) : GasPrice → GasPrice → Prop
  | .legacy price, .legacy price' => price.Rises (ceiling = some ·) price'
  | .feePair maxFee tip, .feePair maxFee' tip' =>
      maxFee.Rises (ceiling = some ·) maxFee' ∧ tip.Rises (fun b => ceiling = some b ∨ b = maxFee') tip'
  | _, _ => False

theorem bumped_feePair {maxFee tip : Wei} (h : tip.toNat ≤ maxFee.toNat) :
    (feePair maxFee tip).bumped percent ceiling =
      .feePair (raise percent ceiling maxFee) (raise percent ceiling tip) := by
  have : (raise percent ceiling tip).least (raise percent ceiling maxFee) = raise percent ceiling tip := by
    have risen : (raise percent ceiling tip).toNat ≤ (raise percent ceiling maxFee).toNat := raise_le_raise h
    apply Wei.ext
    rw [Wei.toNat_least]
    omega
  simp only [bumped, this]

theorem not_lowered_iff (within : p.Within (Wei.limit ceiling)) :
    List.Forall₂ (fun a b => a.toNat ≤ b.toNat) p.amounts (p.bumped percent ceiling).amounts ↔
      ∀ a ∈ p.amounts, 100 * a.toNat ≤ Wei.bound := by
  cases p with
  | legacy price => simp [amounts, bumped, le_raise_iff within]
  | feePair maxFee tip =>
      obtain ⟨fee, tipped⟩ := within
      rw [bumped_feePair tipped]
      simp [amounts, le_raise_iff fee, le_raise_iff (Nat.le_trans tipped fee)]

theorem rises_tip_iff {maxFee tip : Wei} (tipped : tip.toNat ≤ maxFee.toNat)
    (fee : maxFee.Rises (ceiling = some ·) (raise percent ceiling maxFee)) :
    tip.Rises (fun b => ceiling = some b ∨ b = raise percent ceiling maxFee) (raise percent ceiling tip) ↔
      tip.Rises (ceiling = some ·) (raise percent ceiling tip) := by
  constructor
  · rintro ⟨kept, rises⟩
    refine ⟨kept, fun positive => ?_⟩
    rcases rises positive with moved | top | met
    · exact .inl moved
    · exact .inr top
    · -- where the tip meets the fee it has risen, or the fee is at the ceiling
      rw [met]
      refine (Nat.lt_or_eq_of_le (Nat.le_trans tipped fee.1)).imp_right fun same => ?_
      exact (fee.2 (by omega)).resolve_left (by omega)
  · rintro ⟨kept, rises⟩
    exact ⟨kept, fun positive => (rises positive).imp_right .inl⟩

theorem rises_bumped_iff (within : p.Within (Wei.limit ceiling)) : p.Rises ceiling (p.bumped percent ceiling) ↔
    ∀ a ∈ p.amounts, 0 < a.toNat → a.Moves percent ceiling := by
  cases p with
  | legacy price => exact (rises_raise_iff within).trans (by simp [amounts])
  | feePair maxFee tip =>
      obtain ⟨fee, tipped⟩ := within
      rw [bumped_feePair tipped]
      simp only [Rises, amounts, List.forall_mem_cons, ← rises_raise_iff fee,
        ← rises_raise_iff (Nat.le_trans tipped fee)]
      refine and_congr_right fun rises => ?_
      simp [rises_tip_iff tipped rises]

end GasPrice

/-! ## Main statement -/

/-- A bump lowers no amount of a price exactly if none is above a hundredth of the largest one. It raises each positive
amount, up to the ceiling, exactly if the percentage makes at least one wei of each, and the next amount is not above a
hundredth of the largest one. -/
theorem bump_raises_between (p : GasPrice) (percent : Nat) (ceiling : Option Wei)
    (within : p.Within (Wei.limit ceiling)) :
    (List.Forall₂ (fun a b => a.toNat ≤ b.toNat) p.amounts (p.bumped percent ceiling).amounts ↔
      ∀ a ∈ p.amounts, 100 * a.toNat ≤ Wei.bound) ∧
    (p.Rises ceiling (p.bumped percent ceiling) ↔ ∀ a ∈ p.amounts, 0 < a.toNat → a.Moves percent ceiling) :=
  ⟨GasPrice.not_lowered_iff within, GasPrice.rises_bumped_iff within⟩

/-- A fee pair whose tip is cut at the ceiling with its fee. -/
theorem sample_bump_raises : (GasPrice.feePair 110 100).Within (Wei.limit (some 115)) ∧
    (GasPrice.feePair 110 100).Rises (some 115) ((GasPrice.feePair 110 100).bumped 20 (some 115)) ∧
    (GasPrice.feePair 110 100).bumped 20 (some 115) = .feePair 115 115 := by
  have within : (GasPrice.feePair 110 100).Within (Wei.limit (some 115)) := by decide +kernel
  refine ⟨within, (bump_raises_between _ 20 _ within).2.mpr ?_, by decide +kernel⟩
  have small : ∀ a ∈ (GasPrice.feePair 110 100).amounts, 100 ≤ a.toNat * 20 ∧ 100 * (a.toNat + 1) ≤ Wei.bound := by
    decide +kernel
  exact fun a ha _ => .inl (small a ha)

/-- Half the largest amount falls to a hundredth of it, and four wei stay four. -/
theorem sample_bump_lowers :
    let price := GasPrice.feePair (.ofNat 170141183460469231731687303715884105728) 4
    price.Within (Wei.limit none) ∧ ¬ price.Rises none (price.bumped 20 none) ∧
      price.bumped 20 none = .feePair (.ofNat 3402823669209384634633746074317682114) 4 := by
  have within : (GasPrice.feePair (.ofNat 170141183460469231731687303715884105728) 4).Within (Wei.limit none) := by
    decide +kernel
  refine ⟨within, ?_, by decide +kernel⟩
  rintro ⟨⟨kept, -⟩, -⟩
  exact absurd kept (by decide +kernel)

end BridgeRelay
