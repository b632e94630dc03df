import InlineMarkers.Value.Binary64
import Mathlib.Algebra.Order.Field.Power
import Mathlib.Data.Nat.Log
import Mathlib.Data.Rat.Cast.Order
import Mathlib.Tactic.FieldSimp
import Mathlib.Tactic.Linarith
import Mathlib.Tactic.NormNum
import Mathlib.Tactic.Positivity
import Mathlib.Tactic.Ring

/-!
# Rounding to double precision

The number that a fraction is rounded to depends on the size of the fraction
alone, not on how it is written.  A fraction that is close enough to a finite
number is rounded to that number.
-/

namespace InlineMarkers.Binary64

variable {n d n' d' m : Nat} {s t : Int} {x : ℚ} {number : Binary64}

/-! ## Scaling by powers -/

theorem zpow_eq_div (base : ℚ) (s : Int) : base ^ s = base ^ s.toNat / base ^ (-s).toNat := by
  obtain ⟨k, rfl | rfl⟩ := s.eq_nat_or_neg <;> simp

theorem cast_scaledQuotient (n d : Nat) (s : Int) :
    ((scaledQuotient n d s).1 : ℚ) / (scaledQuotient n d s).2 = n / d / 2 ^ s := by
  rw [zpow_eq_div]
  simp only [scaledQuotient, Nat.pow_eq]
  push_cast
  rw [div_div_div_eq]

theorem scaledQuotient_pos (positive : 0 < d) : 0 < (scaledQuotient n d s).2 :=
  Nat.mul_pos positive (Nat.pow_pos (by decide))

/-- The binary logarithms of a numerator and a denominator bound the fraction. -/
theorem log2_bounds (numerator : 0 < n) (denominator : 0 < d) :
    (2 : ℚ) ^ ((n.log2 : Int) - d.log2 - 1) < n / d ∧
      (n : ℚ) / d < 2 ^ ((n.log2 : Int) - d.log2 + 1) := by
  have below : (2 : ℚ) ^ n.log2 ≤ n := by
    exact_mod_cast Nat.log2_self_le numerator.ne'
  have above : (n : ℚ) < 2 ^ (n.log2 + 1) := by
    exact_mod_cast Nat.lt_log2_self
  have below' : (2 : ℚ) ^ d.log2 ≤ d := by
    exact_mod_cast Nat.log2_self_le denominator.ne'
  have above' : (d : ℚ) < 2 ^ (d.log2 + 1) := by
    exact_mod_cast Nat.lt_log2_self
  have positive : (0 : ℚ) < d := by exact_mod_cast denominator
  constructor
  · rw [sub_sub, zpow_sub₀ two_ne_zero, zpow_natCast, ← Nat.cast_succ, zpow_natCast]
    exact div_lt_div₀' below above' (by positivity) positive
  · rw [sub_add_eq_add_sub, zpow_sub₀ two_ne_zero, zpow_natCast, ← Nat.cast_succ, zpow_natCast]
    exact div_lt_div₀ above below' (by positivity) (by positivity)

/-! ## The scale of a size -/

/-- The power of two that leaves 53 bits of a size before the point, or the least one there
is. -/
structure IsScale (x : ℚ) (s : Int) : Prop where
  least : -1074 ≤ s
  small : x < 2 ^ (s + 53)
  large : s = -1074 ∨ 2 ^ (s + 52) ≤ x

theorem IsScale.not_greater (isScale : IsScale x s) (isScale' : IsScale x t) : t ≤ s := by
  by_contra less
  have step : (2 : ℚ) ^ (s + 53) ≤ 2 ^ (t + 52) := zpow_le_zpow_right₀ one_le_two (by omega)
  rcases isScale'.large with least | large
  · exact less (least ▸ isScale.least)
  · exact absurd isScale.small (not_lt.mpr (step.trans large))

theorem IsScale.unique (isScale : IsScale x s) (isScale' : IsScale x t) : s = t :=
  Int.le_antisymm (isScale'.not_greater isScale) (isScale.not_greater isScale')

/-- An estimate that is right or too large by one becomes the scale when it is lowered where
the size has no 53 bits. -/
theorem isScale_lowered (estimated : t = max s (-1074)) (below : 2 ^ (s + 51) < x)
    (above : x < 2 ^ (s + 53)) :
    IsScale x (if x < 2 ^ (t + 52) then max (t - 1) (-1074) else t) := by
  split
  case isTrue small =>
      refine ⟨le_max_right _ _, small.trans_le (zpow_le_zpow_right₀ one_le_two (by omega)), ?_⟩
      rcases Int.lt_or_le (-1074) s with normal | _
      · refine .inr ((zpow_le_zpow_right₀ one_le_two ?_).trans below.le)
        omega
      · exact .inl (by omega)
  case isFalse large =>
      exact ⟨by omega, above.trans_le (zpow_le_zpow_right₀ one_le_two (by omega)),
        .inr (not_lt.mp large)⟩

theorem scaledQuotient_lt_iff (denominator : 0 < d) :
    (scaledQuotient n d s).1 / (scaledQuotient n d s).2 < Nat.pow 2 52 ↔
      (n : ℚ) / d < 2 ^ (s + 52) := by
  have positive : (0 : ℚ) < (scaledQuotient n d s).2 := by
    exact_mod_cast scaledQuotient_pos denominator
  have scaled := cast_scaledQuotient n d s
  rw [div_eq_iff positive.ne'] at scaled
  rw [Nat.div_lt_iff_lt_mul (scaledQuotient_pos denominator), ← Nat.cast_lt (α := ℚ), scaled,
    Nat.cast_mul, mul_lt_mul_iff_left₀ positive, div_lt_iff₀ (by positivity),
    zpow_add₀ two_ne_zero, mul_comm]
  norm_num

/-! ## What a fraction is rounded to -/

theorem isScale_ratio (numerator : 0 < n) (denominator : 0 < d)
    (estimated : t = max ((n.log2 : Int) - d.log2 - 52) (-1074)) :
    IsScale (n / d) (if (scaledQuotient n d t).1 / (scaledQuotient n d t).2 < Nat.pow 2 52 then
      max (t - 1) (-1074) else t) := by
  obtain ⟨below, above⟩ := log2_bounds numerator denominator
  simp only [scaledQuotient_lt_iff denominator]
  refine isScale_lowered estimated ?_ ?_
  · rwa [show (n.log2 : Int) - d.log2 - 52 + 51 = n.log2 - d.log2 - 1 by ring]
  · rwa [show (n.log2 : Int) - d.log2 - 52 + 53 = n.log2 - d.log2 + 1 by ring]

/-- Any scale of the fraction gives the number that it is rounded to. -/
theorem ofRatio_eq (negative : Bool) (numerator : 0 < n) (denominator : 0 < d)
    (isScale : IsScale (n / d) s) :
    ofRatio negative n d = ofMagnitude negative (min ((s + 1074).toNat * Nat.pow 2 52 +
      roundedQuotient (scaledQuotient n d s).1 (scaledQuotient n d s).2) infinityMagnitude) := by
  obtain rfl := isScale.unique (isScale_ratio numerator denominator rfl)
  rfl

theorem roundedQuotient_congr (denominator : 0 < d) (denominator' : 0 < d')
    (same : n * d' = n' * d) : roundedQuotient n d = roundedQuotient n' d' := by
  have expanded : ∀ {n d : Nat} (c : Nat), 0 < c →
      roundedQuotient (n * c) (d * c) = roundedQuotient n d := by
    intro n d c positive
    have tie : 2 * (n % d * c) = d * c ↔ 2 * (n % d) = d := by
      rw [← Nat.mul_assoc, Nat.mul_left_inj positive.ne']
    have more : d * c < 2 * (n % d * c) ↔ d < 2 * (n % d) := by
      rw [← Nat.mul_assoc, Nat.mul_lt_mul_right positive]
    simp only [roundedQuotient, Nat.mul_div_mul_right n d positive, Nat.mul_mod_mul_right, tie,
      more]
  rw [← expanded d' denominator', ← expanded (n := n') d denominator, same, Nat.mul_comm d']

/-- What is less than a half away from a whole number is rounded to it. -/
theorem roundedQuotient_eq (denominator : 0 < d) (near : |(n : ℚ) / d - m| < 1 / 2) :
    roundedQuotient n d = m := by
  have positive : (0 : ℚ) < d := by exact_mod_cast denominator
  rw [abs_lt, sub_lt_iff_lt_add, lt_sub_iff_add_lt, lt_div_iff₀ positive, div_lt_iff₀ positive]
    at near
  have least : 2 * (d * m) < 2 * n + d := by
    have : (2 * (d * m) : ℚ) < 2 * n + d := by linarith
    exact_mod_cast this
  have most : 2 * n < 2 * (d * m) + d := by
    have : (2 * n : ℚ) < 2 * (d * m) + d := by linarith
    exact_mod_cast this
  have parts := Nat.div_add_mod n d
  have rest := Nat.mod_lt n denominator
  have le_of_lt : ∀ {a b : Nat}, d * a < d * b + d → a ≤ b := fun less =>
    Nat.lt_succ_iff.mp (Nat.lt_of_mul_lt_mul_left (by rwa [Nat.mul_succ]))
  unfold roundedQuotient
  dsimp only
  split
  · refine Nat.le_antisymm (Nat.lt_of_mul_lt_mul_left (a := d) (by omega)) (le_of_lt ?_)
    rw [Nat.mul_succ]
    omega
  · exact Nat.le_antisymm (le_of_lt (by omega)) (le_of_lt (by omega))

/-- Equal fractions are rounded to the same number. -/
theorem ofRatio_congr (negative : Bool) (numerator : 0 < n) (denominator : 0 < d)
    (numerator' : 0 < n') (denominator' : 0 < d') (same : n * d' = n' * d) :
    ofRatio negative n d = ofRatio negative n' d' := by
  have sameSize : (n : ℚ) / d = n' / d' := by
    rw [div_eq_div_iff (by positivity) (by positivity)]
    exact_mod_cast same
  obtain ⟨s, isScale⟩ : ∃ s, IsScale ((n : ℚ) / d) s :=
    ⟨_, isScale_ratio numerator denominator rfl⟩
  have sameQuotient : roundedQuotient (scaledQuotient n d s).1 (scaledQuotient n d s).2 =
      roundedQuotient (scaledQuotient n' d' s).1 (scaledQuotient n' d' s).2 := by
    refine roundedQuotient_congr (scaledQuotient_pos denominator)
      (scaledQuotient_pos denominator') ?_
    simp only [scaledQuotient]
    rw [Nat.mul_mul_mul_comm, same, Nat.mul_mul_mul_comm]
  rw [ofRatio_eq negative numerator denominator isScale,
    ofRatio_eq negative numerator' denominator' (sameSize ▸ isScale), sameQuotient]

/-! ## The size of a number -/

theorem ofMagnitude_magnitude (number : Binary64) :
    ofMagnitude number.isNegative number.magnitude = number := by
  have small : number.bits.toNat < 2 ^ 64 := number.bits.toNat_lt
  have bits : (if number.isNegative = true then Nat.pow 2 63 else 0) + number.magnitude =
      number.bits.toNat := by
    simp only [isNegative, magnitude, Nat.pow_eq, decide_eq_true_eq]
    split <;> omega
  rw [ofMagnitude, bits, UInt64.ofNat_toNat]

theorem magnitude_eq (number : Binary64) :
    (number.exponent + 1074).toNat * Nat.pow 2 52 + number.significand = number.magnitude := by
  simp only [exponent, significand, Nat.pow_eq]
  split <;> omega

theorem significand_lt (number : Binary64) : number.significand < 2 ^ 53 := by
  simp only [significand, Nat.pow_eq]
  split <;> omega

theorem exponent_ge (number : Binary64) : -1074 ≤ number.exponent := by
  simp only [exponent]
  omega

theorem subnormal_or_normal (number : Binary64) :
    number.exponent = -1074 ∨ 2 ^ 52 ≤ number.significand := by
  simp only [exponent, significand, Nat.pow_eq]
  split <;> omega

theorem significand_pos (nonzero : number.isZero = false) : 0 < number.significand := by
  simp only [isZero, beq_eq_false_iff_ne, ne_eq] at nonzero
  simp only [significand, Nat.pow_eq]
  split <;> omega

/-- The size of a finite number. -/
def size (number : Binary64) : ℚ :=
  number.significand * 2 ^ number.exponent

theorem ratio_eq (number : Binary64) : number.ratio = scaledQuotient number.significand 1
    (-number.exponent) := by
  simp [ratio, scaledQuotient]

theorem cast_ratio (number : Binary64) :
    (number.ratio.1 : ℚ) / number.ratio.2 = number.size := by
  rw [ratio_eq, cast_scaledQuotient, size, Nat.cast_one, div_one, zpow_neg, div_inv_eq_mul]

theorem ratio_pos (nonzero : number.isZero = false) (ratio : number.ratio = (n, d)) :
    0 < n ∧ 0 < d := by
  rw [ratio_eq] at ratio
  obtain ⟨rfl, rfl⟩ := Prod.mk.inj ratio
  exact ⟨Nat.mul_pos (significand_pos nonzero) (Nat.pow_pos (by decide)),
    Nat.mul_pos Nat.one_pos (Nat.pow_pos (by decide))⟩

theorem size_ge (nonzero : number.isZero = false) : (2 : ℚ) ^ (-1074 : Int) ≤ number.size := by
  have one : (1 : ℚ) ≤ number.significand := by exact_mod_cast significand_pos nonzero
  calc (2 : ℚ) ^ (-1074 : Int) ≤ 2 ^ number.exponent :=
        zpow_le_zpow_right₀ one_le_two number.exponent_ge
    _ ≤ number.significand * 2 ^ number.exponent := le_mul_of_one_le_left (by positivity) one

theorem size_lt (finite : number.magnitude < infinityMagnitude) :
    number.size < (2 : ℚ) ^ (1024 : Int) := by
  have small : (number.significand : ℚ) < 2 ^ 53 := by exact_mod_cast number.significand_lt
  have most : number.exponent ≤ 971 := by
    simp only [infinityMagnitude, Nat.pow_eq] at finite
    simp only [exponent, Nat.pow_eq]
    omega
  calc number.size < 2 ^ 53 * 2 ^ number.exponent :=
        mul_lt_mul_of_pos_right small (by positivity)
    _ ≤ 2 ^ 53 * 2 ^ (971 : Int) :=
        mul_le_mul_of_nonneg_left (zpow_le_zpow_right₀ one_le_two most) (by positivity)
    _ = 2 ^ (1024 : Int) := by rw [← zpow_natCast, ← zpow_add₀ two_ne_zero]; rfl

/-- The finite numbers other than zero lie between two powers of ten. -/
theorem size_bounds (finite : number.magnitude < infinityMagnitude)
    (nonzero : number.isZero = false) :
    (10 : ℚ) ^ (-329 : Int) < number.size ∧ number.size < 10 ^ (319 : Int) := by
  constructor
  · have powers : (2 : ℚ) ^ 1074 < 10 ^ 329 := by
      exact_mod_cast (by decide +kernel : 2 ^ 1074 < 10 ^ 329)
    refine lt_of_lt_of_le ?_ (size_ge nonzero)
    exact inv_strictAnti₀ (by positivity) powers
  · have powers : (2 : ℚ) ^ 1024 < 10 ^ 319 := by
      exact_mod_cast (by decide +kernel : 2 ^ 1024 < 10 ^ 319)
    exact (size_lt finite).trans powers

theorem ofRatio_of_units (finite : number.magnitude < infinityMagnitude) (numerator : 0 < n)
    (denominator : 0 < d) (isScale : IsScale (n / d) s)
    (near : |(n : ℚ) / d / 2 ^ s - m| < 1 / 2)
    (same : (s + 1074).toNat * Nat.pow 2 52 + m = number.magnitude) :
    ofRatio number.isNegative n d = number := by
  rw [← cast_scaledQuotient] at near
  rw [ofRatio_eq _ numerator denominator isScale,
    roundedQuotient_eq (scaledQuotient_pos denominator) near, same, Nat.min_eq_left finite.le,
    ofMagnitude_magnitude]

theorem lt_zpow_add_iff (k : Nat) : x < 2 ^ (s + k) ↔ x / 2 ^ s < 2 ^ k := by
  rw [div_lt_iff₀ (by positivity), zpow_add₀ two_ne_zero, zpow_natCast, mul_comm]

theorem zpow_add_le_iff (k : Nat) : 2 ^ (s + k) ≤ x ↔ 2 ^ k ≤ x / 2 ^ s := by
  rw [← not_lt, lt_zpow_add_iff, not_lt]

/-- A fraction that is close enough to a number is rounded to it.  Below a power of two the
numbers are twice as dense as above, so the fraction must lie within a fourth of a unit. -/
theorem ofRatio_of_near (finite : number.magnitude < infinityMagnitude) (numerator : 0 < n)
    (denominator : 0 < d) (near : |(n : ℚ) / d - number.size| < number.size / 2 ^ 54) :
    ofRatio number.isNegative n d = number := by
  have magnitude := number.magnitude_eq
  have normal := number.subnormal_or_normal
  have least := number.exponent_ge
  have small : (number.significand : ℚ) + 1 ≤ 2 ^ 53 := by exact_mod_cast number.significand_lt
  unfold size at near
  generalize number.exponent = s at *
  generalize number.significand = m at *
  have unit : (0 : ℚ) < 2 ^ s := by positivity
  -- in units of the last place the fraction is less than half a unit away
  have nearUnits : |(n : ℚ) / d / 2 ^ s - m| < m / 2 ^ 54 := by
    refine lt_of_mul_lt_mul_right ?_ unit.le
    rw [← abs_of_pos unit, ← abs_mul, abs_of_pos unit, sub_mul, div_mul_cancel₀ _ unit.ne',
      div_mul_eq_mul_div]
    exact near
  obtain ⟨below, above⟩ := abs_lt.mp nearUnits
  by_cases large : s = -1074 ∨ (2 : ℚ) ^ 52 ≤ (n : ℚ) / d / 2 ^ s
  · refine ofRatio_of_units finite numerator denominator (s := s) (m := m) ⟨least, ?_, ?_⟩ ?_
      magnitude
    · exact (lt_zpow_add_iff 53).mpr (by linarith)
    · exact large.imp_right (zpow_add_le_iff 52).mpr
    · linarith
  · -- the number is a power of two and the fraction lies below it
    obtain ⟨more, less⟩ := not_or.mp large
    rw [not_le] at less
    have power : m = 2 ^ 52 := by
      have most : (m : ℚ) < (2 ^ 52 + 1 : Nat) := by
        push_cast
        linarith
      have most := Nat.lt_succ_iff.mp (Nat.cast_lt.mp most)
      exact Nat.le_antisymm most (normal.resolve_left more)
    have half : (n : ℚ) / d / 2 ^ (s - 1) = (n : ℚ) / d / 2 ^ s * 2 := by
      rw [zpow_sub_one₀ two_ne_zero, ← div_eq_mul_inv, div_div_eq_mul_div, mul_div_right_comm]
    subst power
    push_cast at below above
    refine ofRatio_of_units finite numerator denominator (s := s - 1) (m := 2 ^ 53)
      ⟨by omega, ?_, ?_⟩ ?_ ?_
    · exact (lt_zpow_add_iff 53).mpr (by linarith)
    · exact .inr ((zpow_add_le_iff 52).mpr (by linarith))
    · rw [half, abs_lt]
      push_cast
      constructor <;> linarith
    · have next : (s + 1074).toNat = (s - 1 + 1074).toNat + 1 := by omega
      rw [← magnitude, next, Nat.succ_mul, Nat.add_assoc]
      rfl

end InlineMarkers.Binary64
