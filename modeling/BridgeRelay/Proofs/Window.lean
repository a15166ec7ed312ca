import BridgeRelay.Window
import Mathlib.Algebra.Order.Ring.Int
import Mathlib.Data.UInt

/-!
# Windows and their arithmetic

The next window is the one that the integers give: none of its sums and differences leaves the 64 bits. Windows that
follow one another tile the blocks that they cover.
-/

namespace BridgeRelay.Window

variable {head checkpoint a b block : Height} {confirmations : UInt64} {maxRange : Option UInt64} {w : Window}
  {ws : List Window}

/-! ## Heights as numbers -/

@[simp] theorem toNat_last : Height.last.toNat = 2 ^ 64 - 1 := rfl

theorem toNat_addHeight (a b : Height) : (addHeight a b).toNat = min (a.toNat + b.toNat) (2 ^ 64 - 1) := by
  have ha := a.toNat_lt
  have room : (Height.last - a).toNat = 2 ^ 64 - 1 - a.toNat :=
    UInt64.toNat_sub_of_le _ _ (UInt64.le_iff_toNat_le.mpr (by simp only [toNat_last]; omega))
  unfold addHeight
  simp only [UInt64.lt_iff_toNat_lt, room]
  split
  · simp only [toNat_last]; omega
  · rw [UInt64.toNat_add]; omega

theorem toNat_subHeight (a b : Height) : (subHeight a b).toNat = a.toNat - b.toNat := by
  unfold subHeight
  by_cases h : a ≤ b
  · have := UInt64.le_iff_toNat_le.mp h
    rw [if_pos h, UInt64.toNat_zero]
    omega
  · rw [if_neg h, UInt64.toNat_sub_of_le _ _ (Std.le_of_lt (Std.not_le.mp h))]

theorem toNat_succ (h : a < b) : (a + 1).toNat = a.toNat + 1 := by
  have hb := b.toNat_lt
  rw [UInt64.lt_iff_toNat_lt] at h
  rw [UInt64.toNat_add, UInt64.toNat_one]
  omega

/-! ## The next window -/

/-- The last block of the next window, in the integers. -/
def idealLast (checkpoint safe : ℤ) : (maxRange : Option ℤ) → ℤ
  | some range => if 0 < range then min safe (checkpoint + range) else safe
  | none => safe

/-- The ends of the next window, in the integers. -/
def ideal? (head confirmations checkpoint : ℤ) (maxRange : Option ℤ) : Option (ℤ × ℤ) :=
  if head - confirmations ≤ checkpoint then none
  else some (checkpoint + 1, idealLast checkpoint (head - confirmations) maxRange)

/-- The ends of a window, in the integers. -/
def ends (w : Window) : ℤ × ℤ := (w.first.toNat, w.last.toNat)

theorem idealLast_le {checkpoint safe : ℤ} {maxRange : Option ℤ} : idealLast checkpoint safe maxRange ≤ safe := by
  unfold idealLast
  split
  · split
    · exact min_le_left _ _
    · exact le_rfl
  · exact le_rfl

theorem lt_idealLast {checkpoint safe : ℤ} {maxRange : Option ℤ} (h : checkpoint < safe) :
    checkpoint < idealLast checkpoint safe maxRange := by
  unfold idealLast
  split
  · split
    · exact lt_min h (by omega)
    · exact h
  · exact h

theorem toNat_lastBlock {safe : Height} (h : checkpoint < safe) :
    ((lastBlock (checkpoint + 1) safe maxRange).toNat : ℤ) =
      idealLast checkpoint.toNat safe.toNat (maxRange.map fun range => (range.toNat : ℤ)) := by
  have first := toNat_succ h
  have hs := safe.toNat_lt
  rcases maxRange with _ | range
  · rfl
  · simp only [lastBlock, idealLast, Option.map_some]
    by_cases hr : 0 < range
    · have hr' : 1 ≤ range.toNat := UInt64.lt_iff_toNat_lt.mp hr
      have less : (range - 1).toNat = range.toNat - 1 :=
        UInt64.toNat_sub_of_le _ _ (UInt64.le_iff_toNat_le.mpr hr')
      rw [if_pos hr, if_pos (by omega), UInt64.toNat_min, toNat_addHeight, first, less]
      omega
    · have hr' : range.toNat ≤ 0 := UInt64.le_iff_toNat_le.mp (Std.not_lt.mp hr)
      rw [if_neg hr, if_neg (by omega)]

/-- No step of the computation leaves the 64 bits. -/
theorem map_ends_next? (head : Height) (confirmations : UInt64) (checkpoint : Height) (maxRange : Option UInt64) :
    (next? head confirmations checkpoint maxRange).map ends =
      ideal? head.toNat confirmations.toNat checkpoint.toNat (maxRange.map fun range => (range.toNat : ℤ)) := by
  unfold next? ideal?
  by_cases deep : head < confirmations
  · have hd := UInt64.lt_iff_toNat_lt.mp deep
    rw [if_pos deep, if_pos (by omega), Option.map_none]
  · have hd : confirmations ≤ head := Std.not_lt.mp deep
    have safe : ((head - confirmations).toNat : ℤ) = head.toNat - confirmations.toNat := by
      rw [UInt64.toNat_sub_of_le _ _ hd, Nat.cast_sub (UInt64.le_iff_toNat_le.mp hd)]
    rw [if_neg deep, ← safe]
    by_cases new : head - confirmations ≤ checkpoint
    · have hn := UInt64.le_iff_toNat_le.mp new
      simp only [if_pos new, Option.map_none]
      rw [if_pos (by omega)]
    · have hn := Std.not_le.mp new
      have hn' := UInt64.lt_iff_toNat_lt.mp hn
      simp only [if_neg new, Option.map_some, ends, toNat_succ hn, toNat_lastBlock hn]
      rw [if_neg (by omega), Nat.cast_succ]

/-- The window is not empty and begins behind a block. -/
def Follows (w : Window) (a : Height) : Prop := w.first.toNat = a.toNat + 1 ∧ w.first ≤ w.last

theorem Follows.lt {w : Window} {a : Height} (h : w.Follows a) : a < w.last := by
  obtain ⟨begun, some⟩ := h
  simp only [UInt64.le_iff_toNat_le, UInt64.lt_iff_toNat_lt] at some ⊢
  omega

section Bounds

variable (h : next? head confirmations checkpoint maxRange = some w)
include h

theorem ideal_of_next? : (checkpoint.toNat : ℤ) < head.toNat - confirmations.toNat ∧
    (w.first.toNat : ℤ) = checkpoint.toNat + 1 ∧ (w.last.toNat : ℤ) = idealLast checkpoint.toNat
      (head.toNat - confirmations.toNat) (maxRange.map fun range => (range.toNat : ℤ)) := by
  have hw := map_ends_next? head confirmations checkpoint maxRange
  rw [h, ideal?] at hw
  split at hw
  · cases hw
  · next new => exact ⟨not_le.mp new, by simpa [ends] using hw⟩

theorem next?_confirmed : w.last.toNat + confirmations.toNat ≤ head.toNat := by
  obtain ⟨-, -, last⟩ := ideal_of_next? h
  have := last.trans_le idealLast_le
  omega

theorem next?_follows : w.Follows checkpoint := by
  obtain ⟨new, first, last⟩ := ideal_of_next? h
  have := (lt_idealLast new).trans_eq last.symm
  exact ⟨by omega, UInt64.le_iff_toNat_le.mpr (by omega)⟩

theorem next?_span {range : UInt64} (hr : maxRange = some range) (hpos : 0 < range) :
    w.last.toNat + 1 ≤ w.first.toNat + range.toNat := by
  obtain ⟨new, first, last⟩ := ideal_of_next? h
  have hpos' : 0 < range.toNat := UInt64.lt_iff_toNat_lt.mp hpos
  rw [hr, Option.map_some, idealLast, if_pos (by omega)] at last
  omega

end Bounds

/-! ## Tilings -/

instance : Membership Height Window := ⟨fun w block => w.first ≤ block ∧ block ≤ w.last⟩

instance (block : Height) (w : Window) : Decidable (block ∈ w) :=
  inferInstanceAs (Decidable (w.first ≤ block ∧ block ≤ w.last))

/-- Windows, one behind the other, from a block to a block. -/
def Tiles : Height → List Window → Height → Prop
  | a, [], b => a = b
  | a, w :: ws, b => w.Follows a ∧ Tiles w.last ws b

namespace Tiles

theorem snoc (h : Tiles a ws b) (hw : w.Follows b) : Tiles a (ws ++ [w]) w.last := by
  induction ws generalizing a with
  | nil =>
      cases h
      exact ⟨hw, rfl⟩
  | cons v ws ih => exact ⟨h.1, ih h.2⟩

theorem le (h : Tiles a ws b) : a.toNat ≤ b.toNat := by
  induction ws generalizing a with
  | nil =>
      cases h
      exact le_rfl
  | cons v ws ih =>
      obtain ⟨⟨first, last⟩, h⟩ := h
      have := UInt64.le_iff_toNat_le.mp last
      have := ih h
      omega

theorem lt_first (h : Tiles a ws b) : ∀ w ∈ ws, a < w.first := by
  induction ws generalizing a with
  | nil => simp
  | cons v ws ih =>
      obtain ⟨⟨first, last⟩, h⟩ := h
      have := UInt64.le_iff_toNat_le.mp last
      rintro w (_ | ⟨_, hw⟩)
      · rw [UInt64.lt_iff_toNat_lt]
        omega
      · have := UInt64.lt_iff_toNat_lt.mp (ih h w hw)
        rw [UInt64.lt_iff_toNat_lt]
        omega

theorem pairwise (h : Tiles a ws b) : ws.Pairwise fun v w => v.last < w.first := by
  induction ws generalizing a with
  | nil => exact .nil
  | cons v ws ih => exact .cons h.2.lt_first (ih h.2)

/-- Each block behind the first and up to the last lies in exactly one window, and no other block in any. -/
theorem countP (h : Tiles a ws b) (block : Height) :
    ws.countP (block ∈ ·) = if a < block ∧ block ≤ b then 1 else 0 := by
  induction ws generalizing a with
  | nil =>
      cases h
      rw [if_neg fun hb => absurd hb.1 (Std.not_lt.mpr hb.2)]
      rfl
  | cons v ws ih =>
      obtain ⟨⟨first, last⟩, h⟩ := h
      have hl := UInt64.le_iff_toNat_le.mp last
      have hb := h.le
      have hv : block ∈ v ↔ a < block ∧ block ≤ v.last := by
        show v.first ≤ block ∧ block ≤ v.last ↔ _
        simp only [UInt64.le_iff_toNat_le, UInt64.lt_iff_toNat_lt]
        omega
      simp only [List.countP_cons, ih h, hv, decide_eq_true_eq, UInt64.le_iff_toNat_le, UInt64.lt_iff_toNat_lt]
      split <;> split <;> split <;> omega

end Tiles

end BridgeRelay.Window
