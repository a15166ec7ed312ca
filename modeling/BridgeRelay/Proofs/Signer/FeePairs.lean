import BridgeRelay.Proofs.Signer.Bumps

/-!
# Fee pairs

What becomes of a base fee and a suggested tip. The fee is what is set aside for the base fee and the tip together, but is
cut at the ceiling, which can lie below the base fee. The tip is cut at what the fee leaves above the base fee. So nodes
accept the pair, whatever is set aside and suggested.
-/

namespace BridgeRelay

variable {ceiling : Option Wei} {baseFee room tip : Wei}

namespace Wei

@[simp] theorem toNat_add (a b : Wei) : (a.add b).toNat = min (a.toNat + b.toNat) bound := rfl

@[simp] theorem toNat_sub (a b : Wei) : (a.sub b).toNat = a.toNat - b.toNat := rfl

end Wei

namespace GasPrice

/-- The fee that pays `room` and a tip. -/
def feeFor (ceiling : Option Wei) (room tip : Wei) : Wei := (room.add tip).clamp ceiling

/-- What a fee leaves of a tip. -/
def tipWithin (maxFee baseFee tip : Wei) : Wei := (tip.least (maxFee.sub baseFee)).least maxFee

/-- The fee pair for a base fee, the amount `room` that is set aside for it, and a suggested tip. -/
def ofFees (ceiling : Option Wei) (baseFee room tip : Wei) : GasPrice :=
  .feePair (feeFor ceiling room tip) (tipWithin (feeFor ceiling room tip) baseFee tip)

theorem toNat_feeFor : (feeFor ceiling room tip).toNat = min (room.toNat + tip.toNat) (Wei.limit ceiling).toNat := by
  have := (Wei.limit ceiling).le_bound
  simp only [feeFor, Wei.toNat_clamp, Wei.toNat_add]
  omega

/-- The second cut, at the fee itself, is one that the first has made already. -/
theorem toNat_tipWithin {maxFee : Wei} :
    (tipWithin maxFee baseFee tip).toNat = min tip.toNat (maxFee.toNat - baseFee.toNat) := by
  simp only [tipWithin, Wei.toNat_least, Wei.toNat_sub]
  omega

/-- A fee and the tip that is paid with it are in order for a base fee, the amount that is set aside for it, and a
suggested tip. -/
structure InOrder (ceiling : Option Wei) (baseFee room tip maxFee paid : Wei) : Prop where
  capped : ∀ m, ceiling = some m → maxFee.toNat ≤ m.toNat
  paid_le_fee : paid.toNat ≤ maxFee.toNat
  paid_le_tip : paid.toNat ≤ tip.toNat
  /-- a fee that covers the base fee covers the tip as well -/
  covered : baseFee.toNat ≤ maxFee.toNat → baseFee.toNat + paid.toNat ≤ maxFee.toNat
  /-- no tip is paid with a fee below the base fee -/
  uncovered : maxFee.toNat < baseFee.toNat → paid.toNat = 0
  /-- the whole tip is paid if the ceiling leaves room for it and enough is set aside -/
  whole : room.toNat + tip.toNat ≤ (Wei.limit ceiling).toNat → baseFee.toNat ≤ room.toNat → paid = tip

theorem inOrder_fees (ceiling : Option Wei) (baseFee room tip : Wei) : InOrder ceiling baseFee room tip
    (feeFor ceiling room tip) (tipWithin (feeFor ceiling room tip) baseFee tip) where
  capped m h := h ▸ Wei.clamp_le _
  paid_le_fee := by
    rw [toNat_tipWithin]
    omega
  paid_le_tip := by
    rw [toNat_tipWithin]
    omega
  covered _ := by
    rw [toNat_tipWithin]
    omega
  uncovered _ := by
    rw [toNat_tipWithin]
    omega
  whole fits reserved := by
    apply Wei.ext
    rw [toNat_tipWithin, toNat_feeFor]
    omega

end GasPrice

/-! ## Main statement -/

/-- However a chain's settings scale the doubled base fee and the suggested tip, the fee pair that they make of them is in
order, as it is for any two amounts in their place. -/
theorem fee_pairs_in_order :
    (∀ (ceiling : Option Wei) (baseFee room tip : Wei), ∃ maxFee paid,
      GasPrice.ofFees ceiling baseFee room tip = .feePair maxFee paid ∧
        GasPrice.InOrder ceiling baseFee room tip maxFee paid) ∧
    ∀ (s : GasSettings) (baseFee tip : Wei), s.feePair baseFee tip =
      .ofFees s.ceiling baseFee ((baseFee.mul 2).scale s.multiplier) (tip.scale s.multiplier) :=
  ⟨fun ceiling baseFee room tip => ⟨_, _, rfl, GasPrice.inOrder_fees ceiling baseFee room tip⟩, fun _ _ _ => rfl⟩

/-- The whole tip is paid without a ceiling, part of it below one, and none with a ceiling below the base fee. -/
theorem sample_fee_pairs_in_order :
    GasSettings.feePair {} 30 2 = .feePair 62 2 ∧ GasPrice.InOrder none 30 60 2 62 2 ∧
    GasSettings.feePair { ceiling := some 31 } 30 2 = .feePair 31 1 ∧ GasPrice.InOrder (some 31) 30 60 2 31 1 ∧
    GasSettings.feePair { ceiling := some 20 } 30 2 = .feePair 20 0 ∧ GasPrice.InOrder (some 20) 30 60 2 20 0 := by
  have inOrder {ceiling : Option Wei} {baseFee room tip maxFee paid : Wei}
      (h : GasPrice.ofFees ceiling baseFee room tip = .feePair maxFee paid) :
      GasPrice.InOrder ceiling baseFee room tip maxFee paid := by
    obtain ⟨_, _, h', inOrder⟩ := fee_pairs_in_order.1 ceiling baseFee room tip
    cases h'.symm.trans h
    exact inOrder
  refine ⟨?_, inOrder ?_, ?_, inOrder ?_, ?_, inOrder ?_⟩
  all_goals decide +kernel

end BridgeRelay
