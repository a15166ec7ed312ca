import BridgeRelay.Proofs.Retry.Delays
import Mathlib.Algebra.Order.Field.Power
import Mathlib.Algebra.Order.Field.Rat
import Mathlib.Data.Rat.Lemmas
import Mathlib.Tactic.Linarith
import Mathlib.Tactic.NormNum
import Mathlib.Tactic.Positivity
import Mathlib.Tactic.Ring

/-!
# Growth of delays

With a multiplier of at least one the delays of a policy never shrink and stay between its shortest and its longest one,
as long as attempts are counted below `2 ^ 31`. From there on the exponent of the multiplier is negative, and the delays
are below the shortest one. The products are read without rounding here; where the program does not round either, its
delays are the exact ones.
-/

namespace BridgeRelay

/-! ## Rounding -/

theorem nearestEven_mono {num num' den : Nat} (h : num ≤ num') :
    nearestEven num den ≤ nearestEven num' den := by
  have parts : num / den * den + num % den = num := Nat.div_add_mod' num den
  have parts' : num' / den * den + num' % den = num' := Nat.div_add_mod' num' den
  rcases Nat.lt_or_eq_of_le (Nat.div_le_div_right (c := den) h) with below | same
  · rcases nearestEven_eq num den with h | h <;> rcases nearestEven_eq num' den with h' | h' <;> omega
  · -- with one floor the remainders decide
    have rests : num % den ≤ num' % den := by
      rw [same] at parts
      omega
    simp only [nearestEven, same]
    repeat' split
    all_goals omega

/-- Quotients are rounded in their order. -/
theorem nearestEven_le_nearestEven {a b c d : Nat} (hb : 0 < b) (hd : 0 < d) (h : a * d ≤ c * b) :
    nearestEven a b ≤ nearestEven c d := by
  calc nearestEven a b = nearestEven (a * d) (b * d) := (nearestEven_scale hd).symm
    _ ≤ nearestEven (c * b) (b * d) := nearestEven_mono h
    _ = nearestEven c d := by rw [Nat.mul_comm b d, nearestEven_scale hb]

theorem nearestEven_congr {a b c d : Nat} (hb : 0 < b) (hd : 0 < d) (h : a * d = c * b) :
    nearestEven a b = nearestEven c d :=
  Nat.le_antisymm (nearestEven_le_nearestEven hb hd h.le) (nearestEven_le_nearestEven hd hb h.ge)

/-! ## Powers -/

theorem binaryPower_eq {M : Type} [Monoid M] (acc base : M) (n : Nat) : binaryPower acc base n = acc * base ^ n := by
  have digit (acc base : M) (n : Nat) : (if n % 2 = 1 then acc * base else acc) = acc * base ^ (n % 2) := by
    rcases Nat.mod_two_eq_zero_or_one n with h | h <;> simp [h]
  induction acc, base, n using binaryPower.induct with
  | case1 acc base n below =>
      rw [binaryPower, if_pos below, digit, Nat.mod_eq_of_lt below]
  | case2 acc base n acc' below ih =>
      have lowest : acc' = acc * base ^ (n % 2) := digit acc base n
      rw [binaryPower, if_neg below]
      calc binaryPower acc' (base * base) (n / 2) = acc' * (base * base) ^ (n / 2) := ih
        _ = acc * base ^ (n % 2 + 2 * (n / 2)) := by rw [lowest, ← pow_two, ← pow_mul, mul_assoc, ← pow_add]
        _ = acc * base ^ n := by rw [Nat.mod_add_div]

theorem integralPower_eq (x : ℚ) (n : Int) : integralPower x n = x ^ n := by
  have power : binaryPower 1 x n.natAbs = x ^ n.natAbs := (binaryPower_eq 1 x n.natAbs).trans (one_mul _)
  unfold integralPower
  dsimp only
  rw [power]
  split
  · next negative =>
      obtain ⟨k, rfl⟩ : ∃ k : Nat, n = -k := ⟨n.natAbs, by omega⟩
      simp
  · next positive =>
      obtain ⟨k, rfl⟩ : ∃ k : Nat, n = k := ⟨n.natAbs, by omega⟩
      simp

/-! ## Exact numbers -/

namespace Duration

variable {d : Duration} {x y : ℚ}

/-- The exact number of seconds. -/
def seconds (d : Duration) : ℚ := d.nanos / 1000000000

theorem seconds_nonneg (d : Duration) : 0 ≤ d.seconds := by
  unfold seconds
  positivity

/-- The nanosecond nearest to a number of seconds; a tie goes to the even one. -/
def nearest (x : ℚ) : Duration := ⟨nearestEven (x * 1000000000).num.toNat (x * 1000000000).den⟩

theorem nearest_mono (h : x ≤ y) : (nearest x).nanos ≤ (nearest y).nanos := by
  have scaled : x * 1000000000 ≤ y * 1000000000 := by linarith
  refine nearestEven_le_nearestEven (Rat.den_pos _) (Rat.den_pos _) ?_
  have cross := (Rat.le_iff _ _).mp scaled
  generalize x * 1000000000 = x at *
  generalize y * 1000000000 = y at *
  rcases Int.lt_or_le x.num 0 with negative | positive
  · simp [Int.toNat_of_nonpos negative.le]
  · have larger : 0 ≤ y.num := Rat.num_nonneg.mpr ((Rat.num_nonneg.mp positive).trans scaled)
    zify
    rw [Int.toNat_of_nonneg positive, Int.toNat_of_nonneg larger]
    exact cross

/-- A quotient of natural numbers is rounded as it is. -/
theorem nearest_eq {num den : Nat} (positive : 0 < den) (h : x * 1000000000 = num / den) :
    nearest x = ⟨nearestEven num den⟩ := by
  have nonneg : 0 ≤ (x * 1000000000).num := Rat.num_nonneg.mpr (h ▸ by positivity)
  have cross : (x * 1000000000).num * (den : Int) = num * (x * 1000000000).den := by
    have reduced : ((x * 1000000000).den : ℚ) ≠ 0 := Nat.cast_ne_zero.mpr (Rat.den_pos _).ne'
    have given : (den : ℚ) ≠ 0 := Nat.cast_ne_zero.mpr positive.ne'
    have equal : ((x * 1000000000).num : ℚ) / (x * 1000000000).den = num / den := (Rat.num_div_den _).trans h
    exact_mod_cast (div_eq_div_iff reduced given).mp equal
  refine congrArg mk (nearestEven_congr (Rat.den_pos _) positive ?_)
  zify
  rw [Int.toNat_of_nonneg nonneg]
  exact cross

@[simp] theorem nearest_seconds (d : Duration) : nearest d.seconds = d := by
  have whole : d.seconds * 1000000000 = (d.nanos : ℚ) / (1 : Nat) := by simp [seconds]
  rw [nearest_eq Nat.one_pos whole]
  simp [nearestEven, Nat.mod_one]

theorem nearest_le (h : x ≤ d.seconds) : (nearest x).nanos ≤ d.nanos := by
  have := nearest_mono h
  rwa [nearest_seconds] at this

theorem le_nearest (h : d.seconds ≤ x) : d.nanos ≤ (nearest x).nanos := by
  have := nearest_mono h
  rwa [nearest_seconds] at this

theorem seconds_le_seconds {d d' : Duration} (h : d.nanos ≤ d'.nanos) : d.seconds ≤ d'.seconds := by
  have : (d.nanos : ℚ) ≤ d'.nanos := Nat.cast_le.mpr h
  unfold seconds
  linarith

end Duration

namespace Binary64

variable {x y : Binary64} {a b : ℚ}

/-- The number that a finite one stands for. What is not finite counts as zero. -/
def value : Binary64 → ℚ
  | .finite s m e => (if s then -(m : ℚ) else m) * 2 ^ e
  | _ => 0

/-- Stands for a number: is finite, and has this value. -/
def Stands (x : Binary64) (a : ℚ) : Prop := (∃ s m e, x = .finite s m e) ∧ x.value = a

/-- A number is its multiple of each smaller power of two. -/
theorem value_eq_aligned {s : Bool} {m : Nat} {e g : Int} (h : g ≤ e) :
    (finite s m e).value = aligned s m e g * 2 ^ g := by
  have power : (2 : ℚ) ^ e = 2 ^ (e - g).toNat * 2 ^ g := by
    rw [← zpow_natCast, ← zpow_add₀ (by norm_num : (2 : ℚ) ≠ 0), Int.toNat_of_nonneg (by omega)]
    congr 1
    omega
  cases s <;> simp [value, aligned, power, mul_assoc]

theorem less_iff (hx : x.Stands a) (hy : y.Stands b) : x.less y = true ↔ a < b := by
  obtain ⟨⟨s, m, e, rfl⟩, rfl⟩ := hx
  obtain ⟨⟨t, n, f, rfl⟩, rfl⟩ := hy
  rw [value_eq_aligned (Int.min_le_left e f), value_eq_aligned (Int.min_le_right e f)]
  have positive : (0 : ℚ) < 2 ^ min e f := by positivity
  simp only [less, decide_eq_true_eq, mul_lt_mul_iff_left₀ positive, Int.cast_lt]

/-- The smaller of two numbers stands for the smaller of what they stand for. -/
theorem Stands.least (hx : x.Stands a) (hy : y.Stands b) : (x.least y).Stands (min a b) := by
  have below := less_iff hy hx
  have chosen : x.least y = if y.less x then y else x := by
    obtain ⟨⟨s, m, e, rfl⟩, -⟩ := hx
    obtain ⟨⟨t, n, f, rfl⟩, -⟩ := hy
    rfl
  rw [chosen]
  split
  · next h => rwa [min_eq_right (below.mp h).le]
  · next h => rwa [min_eq_left (not_lt.mp (below.not.mp h))]

theorem stands_two : (2 : Binary64).Stands 2 := by
  have two : (2 : Binary64) = .finite false 4503599627370496 (-51) := by decide +kernel
  exact ⟨⟨_, _, _, two⟩, by rw [two]; norm_num [value]⟩

end Binary64

open Binary64 in
theorem Duration.ofBinary64_of_stands {x : Binary64} {a : ℚ} (hx : x.Stands a) (nonneg : 0 ≤ a)
    (short : (nearest a).nanos < UInt64.size * 1000000000) : ofBinary64 x = .ok (nearest a) := by
  obtain ⟨⟨s, m, e, rfl⟩, rfl⟩ := hx
  have sign : s = false ∨ m = 0 := by
    rcases s with _ | _
    · exact .inl rfl
    · have power : (0 : ℚ) < 2 ^ e := by positivity
      have : (m : ℚ) * 2 ^ e ≤ 0 := by simpa [value] using nonneg
      exact .inr (Nat.cast_nonpos.mp (nonpos_of_mul_nonpos_left this power))
  have scaled : (finite s m e).value * 1000000000 =
      ((m * 2 ^ e.toNat * 1000000000 : Nat) : ℚ) / (2 ^ (-e).toNat : Nat) := by
    have power : (2 : ℚ) ^ e = 2 ^ e.toNat / 2 ^ (-e).toNat := by
      rw [← zpow_natCast, ← zpow_natCast, ← zpow_sub₀ (by norm_num : (2 : ℚ) ≠ 0)]
      congr 1
      omega
    rcases sign with rfl | rfl
    · simp [value, power]
      ring
    · simp [value]
  rw [nearest_eq (Nat.two_pow_pos _) scaled] at short ⊢
  simp only [ofBinary64]
  rw [if_neg (by rcases sign with rfl | rfl <;> simp)]
  exact if_neg (Nat.not_le.mpr short)

theorem Duration.ofBinary64_zero (s : Bool) (e : Int) : ofBinary64 (.finite s 0 e) = .ok .zero := by
  simp [ofBinary64, nearestEven, zero]

namespace RetryPolicy

variable {p : RetryPolicy} {i j attempt : Nat}

/-- The formula of delays, over any numbers. -/
def delayOf {α : Type} [Mul α] [Div α] [OfNat α 1] (least : α → α → α) (initial maximum multiplier : α)
    (attempt : Nat) : α :=
  least (initial * integralPower multiplier (exponent attempt)) maximum

theorem backoff_eq (p : RetryPolicy) (attempt : Nat) : p.backoff attempt =
    Duration.ofBinary64 (delayOf Binary64.least p.initial.toSeconds p.maximum.toSeconds p.multiplier attempt) := rfl

/-- The delay before it is rounded to nanoseconds, by exact arithmetic. -/
def exactSeconds (p : RetryPolicy) (attempt : Nat) : ℚ :=
  delayOf min p.initial.seconds p.maximum.seconds p.multiplier.value attempt

/-- The delay by exact arithmetic. -/
def exactBackoff (p : RetryPolicy) (attempt : Nat) : Duration := .nearest (p.exactSeconds attempt)

theorem exactSeconds_eq (p : RetryPolicy) (attempt : Nat) : p.exactSeconds attempt =
    min (p.initial.seconds * p.multiplier.value ^ exponent attempt) p.maximum.seconds := by
  rw [exactSeconds, delayOf, integralPower_eq]

theorem exactSeconds_le_maximum (p : RetryPolicy) (attempt : Nat) : p.exactSeconds attempt ≤ p.maximum.seconds := by
  rw [exactSeconds_eq]
  exact min_le_right _ _

theorem exactBackoff_le_maximum (p : RetryPolicy) (attempt : Nat) :
    (p.exactBackoff attempt).nanos ≤ p.maximum.nanos :=
  Duration.nearest_le (p.exactSeconds_le_maximum attempt)

/-- Where the program does not round before the end, its delays are the exact ones. -/
theorem backoff_eq_exactBackoff
    (product : (p.initial.toSeconds * integralPower p.multiplier (exponent attempt)).Stands
      (p.initial.seconds * p.multiplier.value ^ exponent attempt))
    (maximum : p.maximum.toSeconds.Stands p.maximum.seconds) (positive : 0 ≤ p.multiplier.value)
    (short : p.maximum.nanos < UInt64.size * 1000000000) : p.backoff attempt = .ok (p.exactBackoff attempt) := by
  have stands := product.least maximum
  rw [← exactSeconds_eq] at stands
  have nonneg : 0 ≤ p.exactSeconds attempt := by
    rw [exactSeconds_eq]
    exact le_min (mul_nonneg p.initial.seconds_nonneg (zpow_nonneg positive _)) p.maximum.seconds_nonneg
  rw [backoff_eq]
  exact Duration.ofBinary64_of_stands stands nonneg (Nat.lt_of_le_of_lt (p.exactBackoff_le_maximum attempt) short)

/-! ## Exponents -/

theorem exponent_of_lt (h : attempt < 2 ^ 31) : exponent attempt = attempt := by
  unfold exponent
  rw [Int.bmod_eq_of_le]
  all_goals simp [UInt32.size]
  all_goals omega

/-- The sign bit of the attempt is that of the exponent. -/
theorem exponent_of_ge (h : 2 ^ 31 ≤ attempt) (word : attempt < 2 ^ 32) : exponent attempt = attempt - 2 ^ 32 := by
  unfold exponent
  rw [Int.bmod_def]
  simp [UInt32.size]
  omega

/-! ## Growth -/

theorem exactSeconds_mono (multiplier : 1 ≤ p.multiplier.value) (h : exponent i ≤ exponent j) :
    p.exactSeconds i ≤ p.exactSeconds j := by
  rw [exactSeconds_eq, exactSeconds_eq]
  have power := zpow_le_zpow_right₀ multiplier h
  exact min_le_min_right _ (mul_le_mul_of_nonneg_left power p.initial.seconds_nonneg)

theorem exactSeconds_zero (ordered : p.initial.nanos ≤ p.maximum.nanos) : p.exactSeconds 0 = p.initial.seconds := by
  rw [exactSeconds_eq, exponent_of_lt (by decide), Nat.cast_zero, zpow_zero, mul_one]
  exact min_eq_left (Duration.seconds_le_seconds ordered)

theorem exactSeconds_of_one (one : p.multiplier.value = 1) (ordered : p.initial.nanos ≤ p.maximum.nanos) :
    p.exactSeconds attempt = p.initial.seconds := by
  rw [exactSeconds_eq, one, one_zpow, mul_one]
  exact min_eq_left (Duration.seconds_le_seconds ordered)

/-- A negative exponent takes the delay below the shortest one. -/
theorem exactSeconds_lt_initial (multiplier : 1 < p.multiplier.value) (positive : 0 < p.initial.nanos)
    (h : exponent attempt < 0) : p.exactSeconds attempt < p.initial.seconds := by
  have initial : 0 < p.initial.seconds := by
    unfold Duration.seconds
    positivity
  have power : p.multiplier.value ^ exponent attempt < 1 := zpow_lt_one_of_neg₀ multiplier h
  rw [exactSeconds_eq]
  calc min (p.initial.seconds * p.multiplier.value ^ exponent attempt) p.maximum.seconds
      ≤ p.initial.seconds * p.multiplier.value ^ exponent attempt := min_le_left _ _
    _ < p.initial.seconds := mul_lt_of_lt_one_right initial power

/-! ## Main statement -/

/-- With a multiplier of at least one the delays do not shrink, and stay between the shortest and the longest one, up to
the first attempt with the sign bit, or forever if the multiplier is one. With a larger one the delay of each attempt
with the sign bit is below the shortest. All this is of the exact delays, and they are the delays of the program where
it does not round before the end. -/
theorem delays_grow_below_sign_bit (p : RetryPolicy) (multiplier : 1 ≤ p.multiplier.value)
    (positive : 0 < p.initial.nanos) (ordered : p.initial.nanos ≤ p.maximum.nanos) :
    (∀ i j, i ≤ j → j < 2 ^ 31 ∨ p.multiplier.value = 1 → p.initial.nanos ≤ (p.exactBackoff i).nanos ∧
      (p.exactBackoff i).nanos ≤ (p.exactBackoff j).nanos ∧ (p.exactBackoff j).nanos ≤ p.maximum.nanos) ∧
    (∀ j, 2 ^ 31 ≤ j → j < 2 ^ 32 → 1 < p.multiplier.value →
      p.exactSeconds j < p.initial.seconds ∧ (p.exactBackoff j).nanos ≤ p.initial.nanos) ∧
    (∀ j, (p.initial.toSeconds * integralPower p.multiplier (exponent j)).Stands
        (p.initial.seconds * p.multiplier.value ^ exponent j) →
      p.maximum.toSeconds.Stands p.maximum.seconds → p.maximum.nanos < UInt64.size * 1000000000 →
      p.backoff j = .ok (p.exactBackoff j)) := by
  refine ⟨fun i j le below => ?_, fun j sign word larger => ?_, fun j product maximum short => ?_⟩
  · suffices grown : p.initial.seconds ≤ p.exactSeconds i ∧ p.exactSeconds i ≤ p.exactSeconds j from
      ⟨Duration.le_nearest grown.1, Duration.nearest_mono grown.2, p.exactBackoff_le_maximum j⟩
    rcases below with below | one
    · have ordered_exponents : exponent 0 ≤ exponent i ∧ exponent i ≤ exponent j := by
        rw [exponent_of_lt (by decide), exponent_of_lt (Nat.lt_of_le_of_lt le below), exponent_of_lt below]
        omega
      rw [← exactSeconds_zero ordered]
      exact ⟨exactSeconds_mono multiplier ordered_exponents.1, exactSeconds_mono multiplier ordered_exponents.2⟩
    · rw [exactSeconds_of_one one ordered, exactSeconds_of_one one ordered]
      exact ⟨le_rfl, le_rfl⟩
  · have negative : exponent j < 0 := by
      rw [exponent_of_ge sign word]
      omega
    have below := exactSeconds_lt_initial larger positive negative
    exact ⟨below, Duration.nearest_le below.le⟩
  · exact backoff_eq_exactBackoff product maximum (zero_le_one.trans multiplier) short

theorem sample_delays_grow :
    let p : RetryPolicy := {}
    (1 ≤ p.multiplier.value ∧ 0 < p.initial.nanos ∧ p.initial.nanos ≤ p.maximum.nanos) ∧
      (p.exactBackoff 3).nanos ≤ (p.exactBackoff 2147483647).nanos ∧ p.exactSeconds 2147483648 < p.initial.seconds ∧
      p.backoff 3 = .ok (p.exactBackoff 3) := by
  intro p
  have two : p.multiplier.value = 2 := Binary64.stands_two.2
  have multiplier : 1 ≤ p.multiplier.value := by norm_num [two]
  obtain ⟨grow, shrink, exact⟩ := delays_grow_below_sign_bit p multiplier (by decide) (by decide)
  refine ⟨⟨multiplier, by decide, by decide⟩, (grow 3 2147483647 (by decide) (.inl (by decide))).2.1,
    (shrink 2147483648 (by decide) (by decide) (by norm_num [two])).1, exact 3 ?_ ?_ (by decide)⟩
  · have product : p.initial.toSeconds * integralPower p.multiplier (exponent 3) =
        .finite false 4503599627370496 (-48) := by decide +kernel
    refine ⟨⟨_, _, _, product⟩, ?_⟩
    rw [product, two, exponent_of_lt (by decide)]
    norm_num [Binary64.value, Duration.seconds, p, Duration.ofSeconds]
  · have sixty : p.maximum.toSeconds = .finite false 8444249301319680 (-47) := by decide +kernel
    refine ⟨⟨_, _, _, sixty⟩, ?_⟩
    rw [sixty]
    norm_num [Binary64.value, Duration.seconds, p, Duration.ofSeconds]

/-- The usual policy waits a minute before the last attempt without the sign bit, not at all before the next one, and
one second, half of its shortest delay, before the last one. -/
theorem sample_delay_falls :
    (¬ ∀ p : RetryPolicy, 1 ≤ p.multiplier.value → 0 < p.initial.nanos → p.initial.nanos ≤ p.maximum.nanos →
      ∀ i j, i ≤ j → j < 2 ^ 32 → p.initial.nanos ≤ (p.exactBackoff i).nanos ∧
        (p.exactBackoff i).nanos ≤ (p.exactBackoff j).nanos ∧ (p.exactBackoff j).nanos ≤ p.maximum.nanos) ∧
    RetryPolicy.backoff {} 2147483647 = .ok (.ofSeconds 60) ∧ RetryPolicy.backoff {} 2147483648 = .ok .zero ∧
      RetryPolicy.backoff {} 4294967295 = .ok (.ofSeconds 1) := by
  refine ⟨fun growing => ?_, ?_, ?_, ?_⟩
  · have two : ({} : RetryPolicy).multiplier.value = 2 := Binary64.stands_two.2
    have grown := growing {} (by norm_num [two]) (by decide) (by decide) 4294967295 4294967295 le_rfl (by decide)
    have half : RetryPolicy.exactSeconds {} 4294967295 = (Duration.ofSeconds 1).seconds := by
      rw [exactSeconds_eq, two, exponent_of_ge (by decide) (by decide)]
      norm_num [Duration.seconds, Duration.ofSeconds]
    rw [exactBackoff, half, Duration.nearest_seconds] at grown
    exact absurd grown.1 (by decide)
  · have capped : delayOf Binary64.least (Duration.ofSeconds 2).toSeconds (Duration.ofSeconds 60).toSeconds 2
        2147483647 = .finite false 8444249301319680 (-47) := by decide +kernel
    rw [backoff_eq, capped]
    rfl
  · have none : delayOf Binary64.least (Duration.ofSeconds 2).toSeconds (Duration.ofSeconds 60).toSeconds 2
        2147483648 = .finite false 0 (-1074) := by decide +kernel
    rw [backoff_eq, none, Duration.ofBinary64_zero]
  · have half : delayOf Binary64.least (Duration.ofSeconds 2).toSeconds (Duration.ofSeconds 60).toSeconds 2
        4294967295 = .finite false 4503599627370496 (-52) := by decide +kernel
    rw [backoff_eq, half]
    rfl

end RetryPolicy

end BridgeRelay
