import InlineMarkers.Calendar.Date
import InlineMarkers.Calendar.PartialDate
import InlineMarkers.Proofs.Text.Ascii
import Mathlib.Algebra.Group.Nat.Defs
import Mathlib.Data.List.Basic
import Mathlib.Data.List.Induction

/-!
# Numbers in digits

Writing a number in decimal digits, with zeros in front or without, and reading
it again.
-/

namespace InlineMarkers.Calendar

open Text

variable {c : Char} {digits : List Char} {width n : Nat}

theorem digitValue?_of_isDigit (digit : c.isDigit = true) :
    digitValue? c = some (c.toNat - 48) := by
  rw [isDigit_iff_toNat] at digit
  have inRow : (decide (0x30 ≤ c.toNat) && decide (c.toNat < 0x30 + 10)) = true := by
    rw [Bool.and_eq_true, decide_eq_true_eq, decide_eq_true_eq]
    omega
  obtain ⟨others, zeros⟩ : ∃ others, digitZeros = 0x30 :: others := ⟨_, rfl⟩
  simp only [digitValue?, zeros, List.find?_cons, inRow, Option.map_some]

/-- On ASCII digits, the value of a row of digits is the usual one. -/
theorem digitsValue_of_isDigit (ascii : ∀ c ∈ digits, c.isDigit = true) :
    digitsValue digits = Nat.ofDigitChars 10 digits 0 := by
  rw [digitsValue, Nat.ofDigitChars_eq_foldl]
  refine List.foldl_ext _ _ 0 fun value c member => ?_
  rw [digitValue?_of_isDigit (ascii c member), Option.getD_some, Nat.mul_comm]
  rfl

theorem digitsValue_lt (digits : List Char) : digitsValue digits < 10 ^ digits.length := by
  have step : ∀ (digits : List Char) (value : Nat),
      digits.foldl (fun value c => value * 10 + (digitValue? c).getD 0) value <
        (value + 1) * 10 ^ digits.length := by
    intro digits
    induction digits with
    | nil => simp
    | cons c digits ih =>
        intro value
        have small : (digitValue? c).getD 0 < 10 := by
          cases found : digitValue? c with
          | none => simp
          | some digit => exact digitValue?_lt found
        refine Nat.lt_of_lt_of_le (ih _) ?_
        rw [List.length_cons, Nat.pow_succ, Nat.mul_comm (10 ^ digits.length), ← Nat.mul_assoc]
        refine Nat.mul_le_mul_right _ ?_
        change value * 10 + (digitValue? c).getD 0 + 1 ≤ (value + 1) * 10
        omega
  simpa [digitsValue] using step digits 0

theorem digitsValue_concat (digits : List Char) (c : Char) :
    digitsValue (digits ++ [c]) = digitsValue digits * 10 + digitsValue [c] := by
  simp [digitsValue]

/-- Of the rows of ASCII digits of one length, no two have the same value. -/
theorem eq_of_digitsValue_eq {others : List Char} (ascii : ∀ c ∈ digits, c.isDigit = true)
    (othersAscii : ∀ c ∈ others, c.isDigit = true) (size : digits.length = others.length)
    (same : digitsValue digits = digitsValue others) : digits = others := by
  induction digits using List.reverseRecOn generalizing others with
  | nil => exact (List.length_eq_zero_iff.mp size.symm).symm
  | append_singleton digits c ih =>
      obtain rfl | ⟨others, d, rfl⟩ := List.eq_nil_or_concat others
      · simp at size
      rw [List.concat_eq_append] at othersAscii size same ⊢
      have digit := ascii c (by simp)
      have otherDigit := othersAscii d (by simp)
      have inRow := isDigit_iff_toNat.mp digit
      have otherInRow := isDigit_iff_toNat.mp otherDigit
      have value : digitsValue [c] = c.toNat - 48 := by
        simp [digitsValue, digitValue?_of_isDigit digit]
      have otherValue : digitsValue [d] = d.toNat - 48 := by
        simp [digitsValue, digitValue?_of_isDigit otherDigit]
      rw [digitsValue_concat, digitsValue_concat, value, otherValue] at same
      have sameLast : c = d := Char.toNat_inj.mp (by omega)
      rw [sameLast, ih (fun c member => ascii c (List.mem_append_left _ member))
        (fun c member => othersAscii c (List.mem_append_left _ member)) (by simpa using size)
        (by omega)]

/-- Decimal digits of any script, so many of them at least and at most. -/
def IsDigits (shortest longest : Nat) (text : List Char) : Prop :=
  shortest ≤ text.length ∧ text.length ≤ longest ∧ ∀ c ∈ text, isDecimalDigit c = true

theorem isDigitRow_iff {shortest longest : Nat} {text : List Char} :
    isDigitRow shortest longest text = true ↔ IsDigits shortest longest text := by
  simp only [isDigitRow, IsDigits, Bool.and_eq_true, decide_eq_true_eq, List.all_eq_true,
    and_assoc]

instance (shortest longest : Nat) (text : List Char) :
    Decidable (IsDigits shortest longest text) :=
  decidable_of_iff _ isDigitRow_iff

theorem IsDigits.notMem {shortest longest : Nat} {text : List Char}
    (row : IsDigits shortest longest text) (other : isDecimalDigit c = false) : c ∉ text := by
  intro member
  rw [row.2.2 c member] at other
  exact absurd other (by decide)

theorem IsDigits.of_prefix {shortest longest least : Nat} {text typed : List Char}
    (row : IsDigits shortest longest text) (begins : typed <+: text)
    (enough : least ≤ typed.length) : IsDigits least longest typed :=
  ⟨enough, Nat.le_trans begins.length_le row.2.1,
    fun c member => row.2.2 c (begins.subset member)⟩

theorem IsDigits.widen {shortest longest least most : Nat} {text : List Char}
    (row : IsDigits shortest longest text) (lower : least ≤ shortest) (upper : longest ≤ most) :
    IsDigits least most text :=
  ⟨Nat.le_trans lower row.1, Nat.le_trans row.2.1 upper, row.2.2⟩

/-- A row of digits that fits between two bounds does not fit beyond or below them. -/
theorem isDigitRow_eq_false {shortest longest least most : Nat} {text : List Char}
    (row : IsDigits shortest longest text) (apart : longest < least ∨ most < shortest) :
    isDigitRow least most text = false := by
  rw [Bool.eq_false_iff]
  intro other
  have lower := (isDigitRow_iff.mp other).1
  have upper := (isDigitRow_iff.mp other).2.1
  have ownLower := row.1
  have ownUpper := row.2.1
  omega

theorem digitsValue_lt_of_isDigitRow {shortest longest : Nat} {text : List Char}
    (row : isDigitRow shortest longest text = true) : digitsValue text < 10 ^ longest :=
  Nat.lt_of_lt_of_le (digitsValue_lt text)
    (Nat.pow_le_pow_right (by decide) (isDigitRow_iff.mp row).2.1)

theorem integerText_natCast (n : Nat) : integerText n = Nat.toDigits 10 n := by
  simp [integerText]

theorem isDigit_of_mem_toDigits (member : c ∈ Nat.toDigits 10 n) : c.isDigit = true :=
  Nat.isDigit_of_mem_toDigits (by decide) (by decide) member

theorem digitsValue_toDigits (n : Nat) : digitsValue (Nat.toDigits 10 n) = n := by
  rw [digitsValue_of_isDigit fun _ => isDigit_of_mem_toDigits, Nat.ofDigitChars_ten_toDigits]

/-! ## Numbers with zeros in front -/

theorem digitsValue_zeros_append (digits : List Char) (k : Nat) :
    digitsValue (List.replicate k '0' ++ digits) = digitsValue digits := by
  induction k with
  | zero => rfl
  | succ k ih =>
      rw [← ih, List.replicate_succ, List.cons_append]
      rfl

theorem padded_natCast (width n : Nat) :
    padded width n =
      List.replicate (width - (Nat.toDigits 10 n).length) '0' ++ Nat.toDigits 10 n := by
  rw [padded, integerText_natCast]

theorem isDigit_of_mem_padded (member : c ∈ padded width n) : c.isDigit = true := by
  rw [padded_natCast] at member
  rcases List.mem_append.mp member with filled | written
  · obtain rfl := List.eq_of_mem_replicate filled
    decide
  · exact isDigit_of_mem_toDigits written

theorem digitsValue_padded (width n : Nat) : digitsValue (padded width n) = n := by
  rw [digitsValue_of_isDigit fun _ => isDigit_of_mem_padded, padded_natCast,
    Nat.ofDigitChars_append, Nat.ofDigitChars_replicate_zero, Nat.mul_zero,
    Nat.ofDigitChars_ten_toDigits]

/-- A positive number has no zero in front. -/
theorem not_zero_prefix_toDigits (positive : 0 < n) : ¬['0'] <+: Nat.toDigits 10 n := by
  rintro ⟨rest, written⟩
  have value : digitsValue rest = n := by
    rw [← digitsValue_toDigits n, ← written]
    exact (digitsValue_zeros_append rest 1).symm
  have filled : 0 < rest.length := by
    rw [List.length_pos_iff]
    rintro rfl
    exact absurd value (Nat.ne_of_lt positive)
  have short := (Nat.length_toDigits_le_iff (by decide : 1 < 10) filled).mpr
    (value ▸ digitsValue_lt rest)
  rw [← written, List.length_append, List.length_singleton] at short
  omega

/-- The first digit of a number that is filled up with zeros is the first of its own digits,
unless it is one of these zeros. -/
theorem prefix_toDigits_iff (positive : 0 < n) (begins : [c] <+: padded width n) :
    [c] <+: Nat.toDigits 10 n ↔ c ≠ '0' := by
  rw [padded_natCast] at begins
  generalize width - (Nat.toDigits 10 n).length = zeros at begins
  cases zeros with
  | zero =>
      refine iff_of_true begins ?_
      rintro rfl
      exact not_zero_prefix_toDigits positive begins
  | succ zeros =>
      obtain ⟨rfl, -⟩ := List.cons_prefix_cons.mp begins
      exact iff_of_false (not_zero_prefix_toDigits positive) (not_not_intro rfl)

theorem isDecimalDigit_of_isDigit (digit : c.isDigit = true) : isDecimalDigit c = true := by
  rw [isDecimalDigit, digitValue?_of_isDigit digit, Option.isSome_some]

/-- A number that is not too large fills its width exactly. -/
theorem length_padded (widthPos : 0 < width) (small : n < 10 ^ width) :
    (padded width n).length = width := by
  have fits := (Nat.length_toDigits_le_iff (by decide : 1 < 10) widthPos).mpr small
  rw [padded_natCast, List.length_append, List.length_replicate]
  omega

/-- The first of the two digits of a number counts its tens. -/
theorem exists_padded_eq_pair (small : n < 100) :
    ∃ tens ones, padded 2 n = [tens, ones] ∧ digitsValue [tens] = n / 10 := by
  obtain ⟨tens, ones, pair⟩ := List.length_eq_two.mp (length_padded (by decide) small)
  refine ⟨tens, ones, pair, ?_⟩
  have value := digitsValue_padded 2 n
  have onesSmall : digitsValue [ones] < 10 := digitsValue_lt [ones]
  rw [pair] at value
  simp only [digitsValue, List.foldl_cons, List.foldl_nil] at value onesSmall ⊢
  omega

/-- Of the two digits of a number, the first is typed or both are. -/
theorem cases_of_prefix_padded (small : n < 100) (begins : digits <+: padded 2 n)
    (filled : digits ≠ []) :
    digits.length = 1 ∧ digitsValue digits = n / 10 ∨ digits = padded 2 n := by
  obtain ⟨tens, ones, pair, tensValue⟩ := exists_padded_eq_pair small
  rw [pair, List.prefix_cons_iff] at begins
  obtain ⟨behind, rfl, inOnes⟩ := begins.resolve_left filled
  rcases List.prefix_cons_iff.mp inOnes with rfl | ⟨_, rfl, isNil⟩
  · exact .inl ⟨rfl, tensValue⟩
  · rw [List.prefix_nil.mp isNil, pair]
    exact .inr rfl

theorem isDigits_padded (widthPos : 0 < width) (small : n < 10 ^ width) :
    IsDigits width width (padded width n) := by
  have size := length_padded widthPos small
  exact ⟨Nat.le_of_eq size.symm, Nat.le_of_eq size,
    fun _ member => isDecimalDigit_of_isDigit (isDigit_of_mem_padded member)⟩

/-- A month or a day in two digits is one that may be written in one or two. -/
theorem isDigits_padded_two (small : n < 100) : IsDigits 1 2 (padded 2 n) := by
  have pair : IsDigits 2 2 (padded 2 n) := isDigits_padded (by decide) small
  exact pair.widen (by decide) (Nat.le_refl 2)

end InlineMarkers.Calendar
