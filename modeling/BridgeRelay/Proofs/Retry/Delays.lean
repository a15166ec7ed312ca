import BridgeRelay.Retry
import Mathlib.Algebra.Group.Nat.Defs

/-!
# Delays

Which delays a policy has. With a multiplier that is not negative every attempt has a delay, however large the powers of
the multiplier become, as long as the longest delay of the policy is one. Rounding does not pass a power of two, so a
longest delay of up to a hundred billion years is one.
-/

namespace BridgeRelay

/-! ## Rounding -/

/-- A quotient is rounded below an even number exactly if it is more than a half below. -/
theorem nearestEven_lt_iff {num den n : Nat} (positive : 0 < den) (even : n % 2 = 0) :
    nearestEven num den < n ↔ 2 * num + den < 2 * (n * den) := by
  have parts : num / den * den + num % den = num := Nat.div_add_mod' num den
  have rest := Nat.mod_lt num positive
  -- just below the number the remainder decides, and a tie goes up to it, as it is even
  rcases Nat.lt_trichotomy (num / den + 1) n with below | same | above
  · have product := Nat.mul_le_mul_right den (show num / den + 2 ≤ n from below)
    rw [Nat.add_mul] at product
    have : nearestEven num den < n := by
      rcases nearestEven_eq num den with h | h <;> omega
    exact iff_of_true this (by omega)
  · have product : n * den = num / den * den + den := by rw [← same, Nat.succ_mul]
    have tie : ¬ num / den % 2 = 0 := by omega
    simp only [nearestEven, tie, if_false]
    split
    · omega
    · split <;> omega
  · have product := Nat.mul_le_mul_right den (show n ≤ num / den from Nat.lt_succ_iff.mp above)
    have : ¬ nearestEven num den < n := by
      rcases nearestEven_eq num den with h | h <;> omega
    exact iff_of_false this (by omega)

theorem nearestEven_scale {num den k : Nat} (hk : 0 < k) : nearestEven (num * k) (den * k) = nearestEven num den := by
  have rest : 2 * (num % den * k) = 2 * (num % den) * k := (Nat.mul_assoc ..).symm
  have below : 2 * (num % den) * k < den * k ↔ 2 * (num % den) < den := Nat.mul_lt_mul_right hk
  have above : den * k < 2 * (num % den) * k ↔ den < 2 * (num % den) := Nat.mul_lt_mul_right hk
  simp only [nearestEven, Nat.mul_div_mul_right _ _ hk, Nat.mul_mod_mul_right, rest, below, above]

theorem nearestEven_lt_of_le {num num' den n : Nat} (positive : 0 < den) (even : n % 2 = 0)
    (h : nearestEven num' den < n) (le : num ≤ num') : nearestEven num den < n := by
  rw [nearestEven_lt_iff positive even] at h ⊢
  omega

theorem nearestEven_le {num den n : Nat} (positive : 0 < den) (h : num ≤ n * den) : nearestEven num den ≤ n := by
  rcases Nat.lt_or_ge (num / den) n with below | above
  · rcases nearestEven_eq num den with h | h <;> omega
  · have parts : num / den * den + num % den = num := Nat.div_add_mod' num den
    have product := Nat.mul_le_mul_right den above
    have whole : num / den = n := Nat.le_antisymm (Nat.div_le_of_le_mul (Nat.mul_comm n den ▸ h)) above
    have exact : num % den = 0 := by omega
    simp only [nearestEven, exact, whole, Nat.mul_zero, positive, if_true]
    exact Nat.le_refl n

/-! ## Signs -/

namespace Binary64

/-- Has no minus sign. -/
inductive Unsigned : Binary64 → Prop where
  | nan : Unsigned .nan
  | infinite : Unsigned (.infinite false)
  | finite (m : Nat) (e : Int) : Unsigned (.finite false m e)

/-- Is not below zero, as negative zero is not. -/
inductive NonNegative : Binary64 → Prop where
  | unsigned {x : Binary64} (h : x.Unsigned) : NonNegative x
  | zero (e : Int) : NonNegative (.finite true 0 e)

variable {x y : Binary64}

theorem unsigned_round (num den : Nat) : (round false num den).Unsigned := by
  unfold round
  split
  · exact .finite _ _
  · dsimp only
    split <;> split <;> first | exact .infinite | exact .finite _ _

theorem unsigned_ofNat (n : Nat) : (ofNat n).Unsigned := unsigned_round n 1

theorem Unsigned.mul (hx : x.Unsigned) (hy : y.Unsigned) : (x * y).Unsigned := by
  change (Binary64.mul x y).Unsigned
  cases hx with
  | nan => exact .nan
  | infinite =>
      cases hy with
      | nan => exact .nan
      | infinite => exact .infinite
      | finite n f =>
          simp only [Binary64.mul]
          split
          · exact .nan
          · exact .infinite
  | finite m e =>
      cases hy with
      | nan => exact .nan
      | infinite =>
          simp only [Binary64.mul]
          split
          · exact .nan
          · exact .infinite
      | finite n f => exact unsigned_round _ _

theorem Unsigned.div (hx : x.Unsigned) (hy : y.Unsigned) : (x / y).Unsigned := by
  change (Binary64.div x y).Unsigned
  cases hx with
  | nan => exact .nan
  | infinite =>
      cases hy with
      | nan | infinite => exact .nan
      | finite n f => exact .infinite
  | finite m e =>
      cases hy with
      | nan => exact .nan
      | infinite => exact .finite _ _
      | finite n f =>
          simp only [Binary64.div]
          split
          · split
            · exact .nan
            · exact .infinite
          · exact unsigned_round _ _

theorem Unsigned.add (hx : x.Unsigned) (hy : y.Unsigned) : (x + y).Unsigned := by
  change (Binary64.add x y).Unsigned
  cases hx with
  | nan => exact .nan
  | infinite =>
      cases hy with
      | nan => exact .nan
      | infinite | finite => exact .infinite
  | finite m e =>
      cases hy with
      | nan => exact .nan
      | infinite => exact .infinite
      | finite n f =>
          have sum : ¬ aligned false m e (min e f) + aligned false n f (min e f) < 0 := by
            simp only [aligned, Bool.false_eq_true, if_false]
            exact Int.not_lt.mpr (Int.add_nonneg (Int.natCast_nonneg _) (Int.natCast_nonneg _))
          simp only [Binary64.add, sum]
          split
          · exact .finite _ _
          · exact unsigned_round _ _

theorem nonNegative_finite {s : Bool} {m : Nat} {e : Int} :
    (finite s m e).NonNegative ↔ s = false ∨ m = 0 := by
  constructor
  · rintro (⟨⟨⟩ | ⟨⟩ | ⟨m, e⟩⟩ | ⟨⟩)
    · exact .inl rfl
    · exact .inr rfl
  · rintro (rfl | rfl)
    · exact .unsigned (.finite m e)
    · cases s with
      | false => exact .unsigned (.finite 0 e)
      | true => exact .zero e

theorem NonNegative.mul (hx : x.NonNegative) (hy : y.NonNegative) : (x * y).NonNegative := by
  -- a product with a zero is a zero of either sign, or not a number
  have scaled (s : Bool) (e : Int) : (roundScaled s 0 1 e).NonNegative := by
    simp only [roundScaled, Nat.zero_mul]
    exact nonNegative_finite.mpr (.inr rfl)
  cases hx with
  | unsigned hx =>
      cases hy with
      | unsigned hy => exact .unsigned (hx.mul hy)
      | zero f =>
          cases hx with
          | nan | infinite => exact .unsigned .nan
          | finite m e => exact scaled _ _
  | zero e =>
      change (Binary64.mul _ y).NonNegative
      rcases hy with ⟨⟨⟩ | ⟨⟩ | ⟨n, f⟩⟩ | f
      · exact .unsigned .nan
      · exact .unsigned .nan
      · simpa [Binary64.mul] using scaled _ _
      · exact scaled _ _

/-! ## Bounds -/

theorem exists_two_pow_shift {e g : Int} (h : g ≤ e) : ∃ c, 2 ^ (-g).toNat = 2 ^ (-e).toNat * 2 ^ c ∧
    2 ^ (e - g).toNat * 2 ^ g.toNat = 2 ^ e.toNat * 2 ^ c := by
  refine ⟨(-g).toNat - (-e).toNat, ?_, ?_⟩
  · rw [← Nat.pow_add]
    congr 1
    omega
  · rw [← Nat.pow_add, ← Nat.pow_add]
    congr 1
    omega

/-- Is between zero and `2 ^ k`, and has no minus sign. -/
def AtMost (k : Nat) (x : Binary64) : Prop :=
  ∃ m e, x = .finite false m e ∧ m * 2 ^ e.toNat ≤ 2 ^ k * 2 ^ (-e).toNat

variable {k : Nat}

theorem floorLog2_le {num den : Nat} (hn : num ≠ 0) (h : num ≤ den * 2 ^ k) : floorLog2 num den ≤ k := by
  have : num.log2 < den.log2 + 1 + k := by
    rw [Nat.log2_lt hn, Nat.pow_add]
    exact Nat.lt_of_le_of_lt h (Nat.mul_lt_mul_of_pos_right Nat.lt_log2_self (Nat.two_pow_pos k))
  unfold floorLog2
  dsimp only
  split <;> omega

/-- A significand that is carried stands for the same number at the next exponent. -/
theorem carried_le {e : Int} {n : Nat} (h : 2 ^ 53 * 2 ^ e.toNat ≤ n * 2 ^ (-e).toNat) :
    2 ^ 52 * 2 ^ (e + 1).toNat ≤ n * 2 ^ (-(e + 1)).toNat := by
  obtain ⟨c, below, above⟩ := exists_two_pow_shift (show e ≤ e + 1 by omega)
  rw [show (e + 1 - e).toNat = 1 by omega] at above
  refine Nat.le_of_mul_le_mul_right (?_ : _ * 2 ^ c ≤ _ * 2 ^ c) (Nat.two_pow_pos c)
  calc 2 ^ 52 * 2 ^ (e + 1).toNat * 2 ^ c = 2 ^ 53 * 2 ^ e.toNat := by
        rw [Nat.mul_assoc, ← above]
        omega
    _ ≤ n * 2 ^ (-e).toNat := h
    _ = n * 2 ^ (-(e + 1)).toNat * 2 ^ c := by rw [below, Nat.mul_assoc]

/-- Rounding does not pass a power of two. -/
theorem atMost_round {num den : Nat} (positive : 0 < den) (h : num ≤ den * 2 ^ k) (hk : k ≤ 1000) :
    (round false num den).AtMost k := by
  by_cases hn : num = 0
  · exact ⟨0, minExponent, by simp [round, hn], by simp⟩
  · simp only [round, if_neg hn, Nat.pow_eq]
    have bound := floorLog2_le hn h
    have fits : max (floorLog2 num den - 52) minExponent ≤ k ∧
        max (floorLog2 num den - 52) minExponent + 1 ≤ maxExponent := by
      simp only [minExponent, maxExponent]
      omega
    generalize max (floorLog2 num den - 52) minExponent = e at fits
    obtain ⟨c, below, above⟩ := exists_two_pow_shift fits.1
    have split : 2 ^ (k - e).toNat * 2 ^ e.toNat = 2 ^ k * 2 ^ (-e).toNat := by simp [above, below]
    have significand : nearestEven (num * 2 ^ (-e).toNat) (den * 2 ^ e.toNat) ≤ 2 ^ (k - e).toNat := by
      refine nearestEven_le (Nat.mul_pos positive (Nat.two_pow_pos _)) ?_
      rw [Nat.mul_left_comm, split, ← Nat.mul_assoc]
      exact Nat.mul_le_mul_right _ h
    generalize nearestEven (num * 2 ^ (-e).toNat) (den * 2 ^ e.toNat) = m at significand
    have atMost : m * 2 ^ e.toNat ≤ 2 ^ k * 2 ^ (-e).toNat := split ▸ Nat.mul_le_mul_right _ significand
    -- a significand of 2 ^ 53 is carried over to the next exponent
    by_cases carried : m = 2 ^ 53
    · simp only [carried, if_true, if_neg (Int.not_lt.mpr fits.2)]
      exact ⟨_, _, rfl, carried_le (carried ▸ atMost)⟩
    · simp only [carried, if_false, if_neg (Int.not_lt.mpr (Int.le_trans (Int.le_add_one (Int.le_refl e)) fits.2))]
      exact ⟨m, e, rfl, atMost⟩

theorem atMost_ofNat {n : Nat} (h : n ≤ 2 ^ k) (hk : k ≤ 1000) : (ofNat n).AtMost k :=
  atMost_round Nat.one_pos (by rwa [Nat.one_mul]) hk

theorem AtMost.div {n : Nat} {f : Int} (hx : x.AtMost k) (h : 2 ^ (-f).toNat ≤ n * 2 ^ f.toNat) (hk : k ≤ 1000) :
    (x / .finite false n f).AtMost k := by
  have positive : n ≠ 0 := by
    rintro rfl
    rw [Nat.zero_mul] at h
    exact Nat.not_lt.mpr h (Nat.two_pow_pos _)
  obtain ⟨m, e, rfl, hm⟩ := hx
  change (Binary64.div _ _).AtMost k
  simp only [Binary64.div, if_neg positive, Bool.xor_false, roundScaled, Nat.pow_eq]
  refine atMost_round (Nat.mul_pos (Nat.pos_of_ne_zero positive) (Nat.two_pow_pos _)) ?_ hk
  obtain ⟨c, hc, hc'⟩ : ∃ c, 2 ^ e.toNat * 2 ^ (-f).toNat = 2 ^ (e - f).toNat * 2 ^ c ∧
      2 ^ f.toNat * 2 ^ (-e).toNat = 2 ^ (-(e - f)).toNat * 2 ^ c := by
    refine ⟨e.toNat + (-f).toNat - (e - f).toNat, ?_, ?_⟩
    all_goals
      rw [← Nat.pow_add, ← Nat.pow_add]
      congr 1
      omega
  refine Nat.le_of_mul_le_mul_right (?_ : _ * 2 ^ c ≤ _ * 2 ^ c) (Nat.two_pow_pos c)
  calc m * 2 ^ (e - f).toNat * 2 ^ c = m * 2 ^ e.toNat * 2 ^ (-f).toNat := by rw [Nat.mul_assoc, ← hc, ← Nat.mul_assoc]
    _ ≤ 2 ^ k * 2 ^ (-e).toNat * (n * 2 ^ f.toNat) := Nat.mul_le_mul hm h
    _ = n * 2 ^ (-(e - f)).toNat * 2 ^ k * 2 ^ c := by
      rw [Nat.mul_right_comm (n * _), Nat.mul_assoc n, ← hc']
      ac_rfl

theorem AtMost.add (hx : x.AtMost k) (hy : y.AtMost k) (hk : k < 1000) : (x + y).AtMost (k + 1) := by
  obtain ⟨m, e, rfl, hm⟩ := hx
  obtain ⟨n, f, rfl, hn⟩ := hy
  change (Binary64.add _ _).AtMost (k + 1)
  let g := min e f
  have shifted {m : Nat} {e : Int} (le : g ≤ e) (hm : m * 2 ^ e.toNat ≤ 2 ^ k * 2 ^ (-e).toNat) :
      m * 2 ^ (e - g).toNat * 2 ^ g.toNat ≤ 2 ^ k * 2 ^ (-g).toNat := by
    obtain ⟨c, below, above⟩ := exists_two_pow_shift le
    rw [Nat.mul_assoc, above, below, ← Nat.mul_assoc, ← Nat.mul_assoc]
    exact Nat.mul_le_mul_right _ hm
  have first := shifted (Int.min_le_left e f) hm
  have second := shifted (Int.min_le_right e f) hn
  have sum : aligned false m e g + aligned false n f g = (m * 2 ^ (e - g).toNat + n * 2 ^ (f - g).toNat : Nat) := by
    simp [aligned]
  simp only [Binary64.add]
  rw [sum]
  split
  · exact ⟨0, minExponent, rfl, by simp⟩
  · rw [decide_eq_false (Int.not_lt.mpr (Int.natCast_nonneg _)), Int.natAbs_natCast]
    refine atMost_round (Nat.mul_pos Nat.one_pos (Nat.two_pow_pos _)) ?_ (by omega)
    simp only [Nat.pow_eq]
    calc _ = m * 2 ^ (e - g).toNat * 2 ^ g.toNat + n * 2 ^ (f - g).toNat * 2 ^ g.toNat := Nat.add_mul ..
      _ ≤ 2 ^ k * 2 ^ (-g).toNat + 2 ^ k * 2 ^ (-g).toNat := Nat.add_le_add first second
      _ = 1 * 2 ^ (-g).toNat * 2 ^ (k + 1) := by
        rw [Nat.pow_succ, Nat.one_mul, ← Nat.mul_two, Nat.mul_comm (2 ^ (-g).toNat), Nat.mul_right_comm (2 ^ k)]

end Binary64

/-! ## Powers -/

open Binary64

/-- What products keep, powers keep. -/
theorem binaryPower_induction {α : Type} [Mul α] {P : α → Prop} (mul : ∀ a b, P a → P b → P (a * b)) {acc base : α}
    {n : Nat} (ha : P acc) (hb : P base) : P (binaryPower acc base n) := by
  have next {acc base : α} {n : Nat} (ha : P acc) (hb : P base) : P (if n % 2 = 1 then acc * base else acc) := by
    split
    · exact mul _ _ ha hb
    · exact ha
  induction acc, base, n using binaryPower.induct with
  | case1 acc base n below =>
      rw [binaryPower, if_pos below]
      exact next ha hb
  | case2 acc base n acc' below ih =>
      rw [binaryPower, if_neg below]
      exact ih (next ha hb) (mul _ _ hb hb)

theorem unsigned_integralPower {x : Binary64} (h : x.Unsigned) (n : Int) : (integralPower x n).Unsigned := by
  have one : (1 : Binary64).Unsigned := unsigned_ofNat 1
  have power : (binaryPower 1 x n.natAbs).Unsigned := binaryPower_induction (fun _ _ => Unsigned.mul) one h
  unfold integralPower
  dsimp only
  split
  · exact one.div power
  · exact power

theorem nonNegative_integralPower {x : Binary64} (h : x.NonNegative) {n : Int} (hn : 0 ≤ n) :
    (integralPower x n).NonNegative := by
  unfold integralPower
  dsimp only
  rw [if_neg (Int.not_lt.mpr hn)]
  exact binaryPower_induction (fun _ _ => NonNegative.mul) (.unsigned (unsigned_ofNat 1)) h

/-! ## Lengths -/

namespace Duration

theorem unsigned_toSeconds (d : Duration) : d.toSeconds.Unsigned :=
  (unsigned_ofNat _).add ((unsigned_ofNat _).div (unsigned_ofNat _))

/-- A number of the format has the same nanoseconds at each smaller exponent. -/
theorem nearestEven_at (m c : Nat) {e g : Int} (h : g ≤ e) :
    nearestEven (m * Nat.pow 2 e.toNat * c) (Nat.pow 2 (-e).toNat) =
      nearestEven (m * Nat.pow 2 (e - g).toNat * Nat.pow 2 g.toNat * c) (Nat.pow 2 (-g).toNat) := by
  simp only [Nat.pow_eq]
  obtain ⟨k, below, above⟩ := exists_two_pow_shift h
  rw [Nat.mul_assoc m (2 ^ (e - g).toNat), above, below, ← Nat.mul_assoc m, Nat.mul_right_comm _ (2 ^ k) c]
  exact (nearestEven_scale (Nat.two_pow_pos k)).symm

theorem aligned_of_nonNegative {s : Bool} {m : Nat} (h : s = false ∨ m = 0) (f e : Int) :
    aligned s m f e = (m * Nat.pow 2 (f - e).toNat : Nat) := by
  rcases h with rfl | rfl <;> simp [aligned]

theorem exists_ofBinary64_finite {s : Bool} {m : Nat} {e : Int} : (∃ d, ofBinary64 (.finite s m e) = .ok d) ↔
    (s = false ∨ m = 0) ∧
      nearestEven (m * Nat.pow 2 e.toNat * 1000000000) (Nat.pow 2 (-e).toNat) < UInt64.size * 1000000000 := by
  unfold ofBinary64
  dsimp only
  split
  · cases s <;> simp_all
  · rename_i sign
    have sign : s = false ∨ m = 0 := by
      cases s <;> simp_all
    split
    · rename_i long
      exact iff_of_false nofun fun h => absurd h.2 (Nat.not_lt.mpr long)
    · rename_i short
      exact iff_of_true ⟨_, rfl⟩ ⟨sign, Nat.not_le.mp short⟩

/-- A number of seconds that is not below zero is the length of a duration once it is cut down to the length of one. -/
theorem ofBinary64_least {x y : Binary64} {d : Duration} (hx : x.NonNegative) (hy : ofBinary64 y = .ok d) :
    ∃ d, ofBinary64 (x.least y) = .ok d := by
  rcases y with _ | _ | ⟨t, n, f⟩
  · cases hy
  · cases ‹Bool› <;> cases hy
  · rcases x with _ | s | ⟨s, m, e⟩
    · exact ⟨d, hy⟩
    · obtain ⟨⟨⟩⟩ := hx
      exact ⟨d, hy⟩
    · simp only [least]
      split
      · exact ⟨d, hy⟩
      · rename_i le
        have hx := nonNegative_finite.mp hx
        obtain ⟨ht, short⟩ := exists_ofBinary64_finite.mp ⟨d, hy⟩
        simp only [less, aligned_of_nonNegative ht, aligned_of_nonNegative hx, decide_eq_true_eq, Int.not_lt,
          Int.ofNat_le] at le
        rw [nearestEven_at n _ (Int.min_le_left f e)] at short
        refine exists_ofBinary64_finite.mpr ⟨hx, ?_⟩
        rw [nearestEven_at m _ (Int.min_le_right f e)]
        refine nearestEven_lt_of_le (Nat.two_pow_pos _) (by decide) short ?_
        exact Nat.mul_le_mul_right _ (Nat.mul_le_mul_right _ le)

theorem atMost_toSeconds {d : Duration} (h : d.nanos ≤ 2 ^ 62 * 1000000000) : d.toSeconds.AtMost 63 := by
  have whole : (ofNat (d.nanos / 1000000000)).AtMost 62 :=
    atMost_ofNat (Nat.div_le_of_le_mul (Nat.mul_comm .. ▸ h)) (by decide)
  have part : (ofNat (d.nanos % 1000000000)).AtMost 62 := atMost_ofNat (by omega) (by decide)
  have billion : (1000000000 : Binary64) = .finite false 8388608000000000 (-23) := by decide +kernel
  refine whole.add (billion ▸ part.div (by decide) (by decide)) (by decide)

/-- Up to a hundred billion years, counted in seconds, are a duration again. -/
theorem exists_ofBinary64_toSeconds {d : Duration} (h : d.nanos ≤ 2 ^ 62 * 1000000000) :
    ∃ d', ofBinary64 d.toSeconds = .ok d' := by
  obtain ⟨m, e, hx, hm⟩ := atMost_toSeconds h
  rw [hx]
  refine exists_ofBinary64_finite.mpr ⟨.inl rfl, ?_⟩
  have short : nearestEven (m * 2 ^ e.toNat * 1000000000) (2 ^ (-e).toNat) ≤ 2 ^ 63 * 1000000000 := by
    refine nearestEven_le (Nat.two_pow_pos _) ?_
    rw [Nat.mul_right_comm (2 ^ 63)]
    exact Nat.mul_le_mul_right _ hm
  exact Nat.lt_of_le_of_lt short (by decide)

end Duration

namespace RetryPolicy

/-- The delays of the policy are durations: its multiplier is not below zero, and its longest delay is a duration when
it is counted in seconds. Of the policies whose multiplier has no minus sign this leaves out only those whose own longest
delay cannot be represented so: one of about `2 ^ 64` seconds is rounded up to more than any duration has. -/
structure HasDelays (p : RetryPolicy) : Prop where
  /-- negative zero has an odd reciprocal power below zero, and attempts from `2 ^ 31` on count as negative -/
  multiplier : p.multiplier.Unsigned ∨ p.multiplier.NonNegative ∧ p.maxAttempts ≤ UInt32.size / 2
  maximum : ∃ d, Duration.ofBinary64 p.maximum.toSeconds = .ok d

theorem exponent_nonneg {attempt : Nat} (h : attempt < UInt32.size / 2) : 0 ≤ exponent attempt := by
  have : (attempt : Int) < UInt32.size / 2 := Int.ofNat_lt.mpr h
  unfold exponent
  rw [Int.bmod_eq_of_le]
  all_goals simp [UInt32.size] at *
  all_goals omega

theorem backoff_ok {p : RetryPolicy} (h : p.HasDelays) {attempt : Nat} (ha : attempt < p.maxAttempts) :
    ∃ d, p.backoff attempt = .ok d := by
  obtain ⟨d, hd⟩ := h.maximum
  have power : (integralPower p.multiplier (exponent attempt)).NonNegative := by
    rcases h.multiplier with hm | ⟨hm, few⟩
    · exact .unsigned (unsigned_integralPower hm _)
    · exact nonNegative_integralPower hm (exponent_nonneg (Nat.lt_of_lt_of_le ha few))
  exact Duration.ofBinary64_least ((NonNegative.unsigned (Duration.unsigned_toSeconds p.initial)).mul power) hd

end RetryPolicy

end BridgeRelay
