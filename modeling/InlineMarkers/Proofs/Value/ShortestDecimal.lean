import InlineMarkers.Proofs.Value.Rounding
import InlineMarkers.Value.Decimal

/-!
# The shortest decimal reads back

A decimal is read as the same number in all its forms, and a decimal close to a
finite number is read as that number.  Of seventeen digits there is always one
that close, so the search for the shortest decimal that reads back finds one.
-/

namespace InlineMarkers.Decimal

variable {n d digits : Nat} {exponent : Int} {x : ℚ} {number : Binary64}

/-! ## Digits -/

/-- The number of digits is the power of ten that a whole number stays below. -/
theorem pow_length_digitTexts (positive : 0 < n) :
    10 ^ ((digitTexts n).length - 1) ≤ n ∧ n < 10 ^ (digitTexts n).length := by
  have filled : 0 < (digitTexts n).length := List.length_pos_of_ne_nil Nat.toDigits_ne_nil
  have within : ∀ width, 0 < width → ((digitTexts n).length ≤ width ↔ n < 10 ^ width) :=
    fun _ => Nat.length_toDigits_le_iff (by decide)
  refine ⟨?_, (within _ filled).mp (Nat.le_refl _)⟩
  rcases Nat.eq_zero_or_pos ((digitTexts n).length - 1) with one | more
  · rw [one]
    exact positive
  · have longer := mt (within _ more).mpr (by omega)
    exact Nat.not_lt.mp longer

theorem length_digitTexts_mul (positive : 0 < n) (k : Nat) :
    (digitTexts (n * 10 ^ k)).length = (digitTexts n).length + k := by
  have ten : 0 < 10 ^ k := by positivity
  obtain ⟨below, above⟩ := pow_length_digitTexts positive
  obtain ⟨below', above'⟩ := pow_length_digitTexts (Nat.mul_pos positive ten)
  have filled : 0 < (digitTexts n).length := List.length_pos_of_ne_nil Nat.toDigits_ne_nil
  have least : 10 ^ ((digitTexts n).length - 1 + k) < 10 ^ (digitTexts (n * 10 ^ k)).length :=
    (Nat.pow_add 10 _ k ▸ Nat.mul_le_mul_right _ below).trans_lt above'
  have most : 10 ^ ((digitTexts (n * 10 ^ k)).length - 1) < 10 ^ ((digitTexts n).length + k) :=
    below'.trans_lt (Nat.pow_add 10 _ k ▸ Nat.mul_lt_mul_of_pos_right above ten)
  rw [Nat.pow_lt_pow_iff_right (by decide)] at least most
  omega

/-! ## Reading -/

/-- Zeros at the end of the digits count as an exponent. -/
theorem read_mul_pow (negative : Bool) (positive : 0 < digits) (k : Nat) (exponent : Int) :
    read negative (digits * 10 ^ k) exponent = read negative digits (exponent + k) := by
  have ten : ∀ e, 0 < 10 ^ e := fun e => Nat.pow_pos (by decide)
  have sameZero : digits * 10 ^ k = 0 ↔ digits = 0 := by
    rw [Nat.mul_eq_zero, or_iff_left (ten k).ne']
  have sameSize : ((digitTexts (digits * 10 ^ k)).length : Int) + exponent =
      (digitTexts digits).length + (exponent + k) := by
    rw [length_digitTexts_mul positive]
    push_cast
    ring
  have sameRatio : digits * 10 ^ k * 10 ^ exponent.toNat * 10 ^ (-(exponent + k)).toNat =
      digits * 10 ^ (exponent + k).toNat * 10 ^ (-exponent).toNat := by
    simp only [Nat.mul_assoc, ← Nat.pow_add]
    congr 2
    omega
  simp only [read, Nat.pow_eq, sameSize, sameZero]
  rw [Binary64.ofRatio_congr negative (Nat.mul_pos (Nat.mul_pos positive (ten k)) (ten _)) (ten _)
    (Nat.mul_pos positive (ten _)) (ten _) sameRatio]

/-- The number of digits and the exponent tell between which powers of ten a decimal lies. -/
theorem size_bounds (positive : 0 < digits) (exponent : Int) :
    (10 : ℚ) ^ ((digitTexts digits).length + exponent - 1) ≤ digits * 10 ^ exponent ∧
      (digits : ℚ) * 10 ^ exponent < 10 ^ ((digitTexts digits).length + exponent) := by
  obtain ⟨below, above⟩ := pow_length_digitTexts positive
  have filled : 0 < (digitTexts digits).length := List.length_pos_of_ne_nil Nat.toDigits_ne_nil
  have unit : (0 : ℚ) < 10 ^ exponent := by positivity
  constructor
  · have shape : ((digitTexts digits).length : Int) + exponent - 1 =
        ((digitTexts digits).length - 1 : Nat) + exponent := by omega
    rw [shape, zpow_add₀ (by norm_num), zpow_natCast]
    exact mul_le_mul_of_nonneg_right (by exact_mod_cast below) unit.le
  · rw [zpow_add₀ (by norm_num), zpow_natCast]
    exact mul_lt_mul_of_pos_right (by exact_mod_cast above) unit

/-- A decimal that is close enough to a finite number is read as that number. -/
theorem read_of_near (finite : number.magnitude < Binary64.infinityMagnitude)
    (nonzero : number.isZero = false) (positive : 0 < digits)
    (near : |(digits : ℚ) * 10 ^ exponent - number.size| < number.size / 2 ^ 54) :
    read number.isNegative digits exponent = number := by
  obtain ⟨less, more⟩ := abs_lt.mp near
  obtain ⟨least, most⟩ := Binary64.size_bounds finite nonzero
  obtain ⟨below, above⟩ := size_bounds positive exponent
  -- the number itself is neither as small nor as large as the decimals that are cut off
  have notTiny : ¬ ((digitTexts digits).length : Int) + exponent < -330 := fun tiny => by
    have power : (10 : ℚ) ^ ((digitTexts digits).length + exponent) * 10 ≤ 10 ^ (-329 : Int) := by
      rw [← zpow_add_one₀ (by norm_num)]
      exact zpow_le_zpow_right₀ (by norm_num) (by omega)
    linarith
  have notHuge : ¬ 320 < ((digitTexts digits).length : Int) + exponent := fun huge => by
    have power : (10 : ℚ) ^ (319 : Int) * 10 ≤
        10 ^ ((digitTexts digits).length + exponent - 1) := by
      rw [← zpow_add_one₀ (by norm_num)]
      exact zpow_le_zpow_right₀ (by norm_num) (by omega)
    generalize (10 : ℚ) ^ (319 : Int) = bound at most power
    linarith
  have ratio : ((digits * 10 ^ exponent.toNat : Nat) : ℚ) / (10 ^ (-exponent).toNat : Nat) =
      digits * 10 ^ exponent := by
    rw [Binary64.zpow_eq_div 10 exponent]
    push_cast
    rw [mul_div_assoc]
  simp only [read, Nat.pow_eq]
  rw [if_neg (not_or.mpr ⟨positive.ne', notTiny⟩), if_neg notHuge]
  refine Binary64.ofRatio_of_near finite (by positivity) (by positivity) ?_
  rwa [ratio]

/-! ## Writing -/

theorem ten_zpow_le_two_zpow {s t : Int} (positive : 0 ≤ s → 10 * s ≤ 3 * t)
    (negative : s < 0 → 93 * s ≤ 28 * t) : (10 : ℚ) ^ s ≤ 2 ^ t := by
  rcases Int.lt_or_le s 0 with less | atLeast
  · obtain ⟨k, rfl⟩ := Int.exists_eq_neg_ofNat less.le
    have powers : ((2 : ℚ) ^ 93) ^ k ≤ (10 ^ 28) ^ k :=
      pow_le_pow_left₀ (by positivity) (by norm_num) k
    refine (pow_le_pow_iff_left₀ (by positivity) (by positivity) (by decide : 28 ≠ 0)).mp ?_
    calc ((10 : ℚ) ^ (-(k : Int))) ^ 28 = ((10 ^ 28) ^ k)⁻¹ := by
          rw [zpow_neg, zpow_natCast, inv_pow, ← pow_mul, ← pow_mul, mul_comm]
      _ ≤ ((2 ^ 93) ^ k)⁻¹ := inv_anti₀ (by positivity) powers
      _ = 2 ^ (93 * -(k : Int)) := by
          rw [← pow_mul, mul_neg, zpow_neg, ← zpow_natCast]
          rfl
      _ ≤ 2 ^ (28 * t) := zpow_le_zpow_right₀ one_le_two (negative less)
      _ = ((2 : ℚ) ^ t) ^ 28 := by rw [mul_comm, zpow_mul, zpow_ofNat]
  · obtain ⟨k, rfl⟩ := Int.eq_ofNat_of_zero_le atLeast
    have powers : ((10 : ℚ) ^ 3) ^ k ≤ (2 ^ 10) ^ k :=
      pow_le_pow_left₀ (by positivity) (by norm_num) k
    refine (pow_le_pow_iff_left₀ (by positivity) (by positivity) (by decide : 3 ≠ 0)).mp ?_
    calc ((10 : ℚ) ^ (k : Int)) ^ 3 = (10 ^ 3) ^ k := by
          rw [zpow_natCast, ← pow_mul, ← pow_mul, mul_comm]
      _ ≤ (2 ^ 10) ^ k := powers
      _ = 2 ^ (10 * (k : Int)) := by
          rw [← pow_mul, ← zpow_natCast]
          rfl
      _ ≤ 2 ^ (3 * t) := zpow_le_zpow_right₀ one_le_two (positive atLeast)
      _ = ((2 : ℚ) ^ t) ^ 3 := by rw [mul_comm, zpow_mul, zpow_ofNat]

theorem lt_mul_pow_iff (denominator : 0 < d) (position : Int) :
    n * Nat.pow 10 (-position).toNat < d * Nat.pow 10 position.toNat ↔
      (n : ℚ) / d < 10 ^ position := by
  rw [Binary64.zpow_eq_div 10 position, div_lt_div_iff₀ (by positivity) (by positivity),
    mul_comm (10 ^ position.toNat : ℚ)]
  simp only [Nat.pow_eq]
  exact_mod_cast Iff.rfl

/-- The first of four powers in a row that a size is below, or the next one; the size is not
below the power before it. -/
theorem pow_find?_le (estimate : Int) (low : (10 : ℚ) ^ (estimate - 2) ≤ x) :
    (10 : ℚ) ^ (([estimate - 1, estimate, estimate + 1, estimate + 2].find?
      fun position => decide (x < 10 ^ position)).getD (estimate + 3) - 1) ≤ x := by
  by_cases first : x < 10 ^ (estimate - 1)
  · rwa [List.find?_cons_of_pos (by simpa using first), Option.getD_some, sub_sub]
  rw [List.find?_cons_of_neg (by simpa using first)]
  by_cases second : x < 10 ^ estimate
  · rw [List.find?_cons_of_pos (by simpa using second), Option.getD_some]
    exact not_lt.mp first
  rw [List.find?_cons_of_neg (by simpa using second)]
  by_cases third : x < 10 ^ (estimate + 1)
  · rw [List.find?_cons_of_pos (by simpa using third), Option.getD_some, add_sub_cancel_right]
    exact not_lt.mp second
  rw [List.find?_cons_of_neg (by simpa using third)]
  by_cases fourth : x < 10 ^ (estimate + 2)
  · rw [List.find?_cons_of_pos (by simpa using fourth), Option.getD_some,
      show estimate + 2 - 1 = estimate + 1 by ring]
    exact not_lt.mp third
  · rw [List.find?_cons_of_neg (by simpa using fourth), List.find?_nil, Option.getD_none,
      show estimate + 3 - 1 = estimate + 2 by ring]
    exact not_lt.mp fourth

/-- The power of ten that is taken for the first digit is not above the fraction. -/
theorem pow_pointPosition_le (numerator : 0 < n) (denominator : 0 < d)
    (small : (n : ℚ) / d < 2 ^ (1024 : Int)) (large : (2 : ℚ) ^ (-1074 : Int) ≤ n / d) :
    (10 : ℚ) ^ (pointPosition n d - 1) ≤ n / d := by
  obtain ⟨below, above⟩ := Binary64.log2_bounds numerator denominator
  have least := (zpow_lt_zpow_iff_right₀ one_lt_two).mp (large.trans_lt above)
  have most := (zpow_lt_zpow_iff_right₀ one_lt_two).mp (below.trans small)
  unfold pointPosition
  simp only [lt_mul_pow_iff denominator]
  exact pow_find?_le _
    ((ten_zpow_le_two_zpow (fun _ => by omega) (fun _ => by omega)).trans below.le)

theorem exists_near_neighbour (denominator : 0 < d) (exponent : Int) :
    ∃ digits : Nat, ⟨digits, exponent⟩ ∈ neighbours n d exponent ∧
      |(digits : ℚ) - n / d / 10 ^ exponent| ≤ 1 / 2 := by
  have scaled : (n : ℚ) / d / 10 ^ exponent =
      (n * 10 ^ (-exponent).toNat : Nat) / (d * 10 ^ exponent.toNat : Nat) := by
    rw [Binary64.zpow_eq_div 10 exponent]
    push_cast
    rw [div_div_div_eq]
  have positive : 0 < d * 10 ^ exponent.toNat := by positivity
  rw [scaled]
  simp only [neighbours, Nat.pow_eq]
  generalize d * 10 ^ exponent.toNat = d at *
  generalize n * 10 ^ (-exponent).toNat = n at *
  have unit : (0 : ℚ) < d := by exact_mod_cast positive
  have parts : (n : ℚ) / d = (n / d : Nat) + (n % d : Nat) / d := by
    rw [div_eq_iff unit.ne', add_mul, div_mul_cancel₀ _ unit.ne']
    exact_mod_cast (Nat.div_add_mod' n d).symm
  split
  case isTrue closeBelow =>
      refine ⟨n / d, List.mem_cons_self, ?_⟩
      have : ((n % d : Nat) : ℚ) / d ≤ 1 / 2 := by
        rw [div_le_div_iff₀ unit two_pos]
        exact_mod_cast (by omega : n % d * 2 ≤ 1 * d)
      rw [parts, abs_le]
      constructor <;> linarith [div_nonneg (Nat.cast_nonneg (α := ℚ) (n % d)) unit.le]
  case isFalse closeAbove =>
      refine ⟨n / d + 1, List.mem_cons_self, ?_⟩
      have : 1 / 2 ≤ ((n % d : Nat) : ℚ) / d := by
        rw [div_le_div_iff₀ two_pos unit]
        exact_mod_cast (by omega : 1 * d ≤ n % d * 2)
      have : ((n % d : Nat) : ℚ) / d ≤ 1 := by
        rw [div_le_one unit]
        exact_mod_cast (Nat.mod_lt n positive).le
      rw [parts, abs_le]
      push_cast
      constructor <;> linarith

/-- Of the decimals with seventeen digits, one is read as the number. -/
theorem exists_seventeen (finite : number.magnitude < Binary64.infinityMagnitude)
    (nonzero : number.isZero = false) (ratio : number.ratio = (n, d)) :
    ∃ decimal ∈ neighbours n d (pointPosition n d - 17),
      decimal.digits ≠ 0 ∧
        read number.isNegative decimal.digits decimal.exponent = number := by
  have size : (n : ℚ) / d = number.size := by rw [← number.cast_ratio, ratio]
  obtain ⟨numerator, denominator⟩ := Binary64.ratio_pos nonzero ratio
  have coarse := pow_pointPosition_le numerator denominator
    (size ▸ Binary64.size_lt finite) (size ▸ Binary64.size_ge nonzero)
  obtain ⟨digits, member, near⟩ :=
    exists_near_neighbour (n := n) denominator (pointPosition n d - 17)
  rw [size] at coarse near
  generalize pointPosition n d = position at *
  have unit : (0 : ℚ) < 10 ^ (position - 17) := by positivity
  -- the first of the seventeen digits counts whole powers of ten that fit into the number
  have fine : (10 : ℚ) ^ 16 ≤ number.size / 10 ^ (position - 17) := by
    rw [le_div_iff₀ unit, ← zpow_natCast, ← zpow_add₀ (by norm_num)]
    rwa [show ((16 : Nat) : Int) + (position - 17) = position - 1 by push_cast; ring]
  have filled : 0 < digits := by
    have : (0 : ℚ) < digits := by linarith [(abs_le.mp near).1]
    exact_mod_cast this
  refine ⟨_, member, filled.ne', read_of_near finite nonzero filled ?_⟩
  rw [le_div_iff₀ unit] at fine
  calc |(digits : ℚ) * 10 ^ (position - 17) - number.size|
      = |(digits : ℚ) - number.size / 10 ^ (position - 17)| * 10 ^ (position - 17) := by
        rw [← abs_of_pos unit, ← abs_mul, abs_of_pos unit, sub_mul, div_mul_cancel₀ _ unit.ne']
    _ ≤ 1 / 2 * 10 ^ (position - 17) := mul_le_mul_of_nonneg_right near unit.le
    _ < number.size / 2 ^ 54 := by linarith

/-- The shortest decimal reads back as the number. -/
theorem read_shortest (finite : number.magnitude < Binary64.infinityMagnitude)
    (nonzero : number.isZero = false) :
    (shortest number).digits ≠ 0 ∧
      read number.isNegative (shortest number).digits (shortest number).exponent = number := by
  generalize ratio : number.ratio = fraction
  obtain ⟨n, d⟩ := fraction
  obtain ⟨decimal, member, filled, same⟩ := exists_seventeen finite nonzero ratio
  have inRange : decimal ∈ (List.range 17).flatMap fun count =>
      neighbours n d (pointPosition n d - (count + 1 : Nat)) :=
    List.mem_flatMap.mpr ⟨16, List.mem_range.mpr (by decide), member⟩
  obtain ⟨first, found⟩ := Option.isSome_iff_exists.mp <|
    (List.find?_isSome (p := fun decimal : Scaled => decide (decimal.digits ≠ 0) &&
      read number.isNegative decimal.digits decimal.exponent == number)).mpr
        ⟨decimal, inRange, by simp [filled, same]⟩
  have isFirst : shortest number = first := by
    simp only [shortest, ratio]
    rw [found, Option.getD_some]
  rw [isFirst]
  simpa using List.find?_some found

end InlineMarkers.Decimal
