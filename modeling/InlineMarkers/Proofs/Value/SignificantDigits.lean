import InlineMarkers.Proofs.Calendar.Digits
import InlineMarkers.Proofs.Value.ShortestDecimal
import Mathlib.Data.List.TakeWhile

/-!
# Significant digits

The digits of a number other than zero begin with a digit other than zero.
Zeros at their end are a power of ten, and zeros in front of them do not count.
-/

namespace InlineMarkers.Decimal

open Text Calendar

variable {digits : List Char} {n : Nat}

/-- ASCII digits, the first of which is no zero. -/
structure Significant (digits : List Char) : Prop where
  ascii : ∀ c ∈ digits, c.isDigit = true
  first : ∃ c others, digits = c :: others ∧ c ≠ '0'

theorem digitsValue_append_zeros (digits : List Char) (k : Nat) :
    digitsValue (digits ++ List.replicate k '0') = digitsValue digits * 10 ^ k := by
  induction k with
  | zero => simp
  | succ k ih =>
      have last : digitsValue (digits ++ List.replicate k '0' ++ ['0']) =
          digitsValue (digits ++ List.replicate k '0') * 10 := by
        rw [digitsValue, List.foldl_append]
        rfl
      rw [List.replicate_succ', ← List.append_assoc, last, ih, Nat.pow_succ, Nat.mul_assoc]

theorem significant_digitTexts (positive : 0 < n) : Significant (digitTexts n) := by
  refine ⟨fun c => isDigit_of_mem_toDigits, ?_⟩
  obtain ⟨c, others, shape⟩ := List.exists_cons_of_ne_nil (Nat.toDigits_ne_nil (b := 10) (n := n))
  refine ⟨c, others, shape, ?_⟩
  rintro rfl
  -- a zero in front would make the number smaller than one with so many digits
  have value : digitsValue others = n := by
    have same := digitsValue_toDigits n
    rwa [shape] at same
  have below := (pow_length_digitTexts positive).1
  have above := digitsValue_lt others
  rw [digitTexts, shape, List.length_cons, Nat.add_sub_cancel] at below
  omega

theorem Significant.of_append_zeros {k : Nat}
    (significant : Significant (digits ++ List.replicate k '0')) : Significant digits := by
  refine ⟨fun c member => significant.ascii c (List.mem_append_left _ member), ?_⟩
  obtain ⟨c, others, shape, nonzero⟩ := significant.first
  cases digits with
  | nil =>
      have isZero : c ∈ List.replicate k '0' := by
        rw [← List.nil_append (List.replicate k '0'), shape]
        exact List.mem_cons_self
      exact absurd (List.eq_of_mem_replicate isZero) nonzero
  | cons d rest =>
      rw [List.cons_append, List.cons.injEq] at shape
      exact ⟨d, rest, rfl, shape.1 ▸ nonzero⟩

theorem isDigit_of_mem_zeros {k : Nat} : ∀ c ∈ List.replicate k '0', c.isDigit = true :=
  fun _ member => List.eq_of_mem_replicate member ▸ by decide

theorem Significant.append_zeros (significant : Significant digits) (k : Nat) :
    Significant (digits ++ List.replicate k '0') := by
  obtain ⟨c, others, rfl, nonzero⟩ := significant.first
  exact ⟨fun d member => (List.mem_append.mp member).elim (significant.ascii d)
    (isDigit_of_mem_zeros d), c, _, List.cons_append, nonzero⟩

theorem Significant.take (significant : Significant digits) {k : Nat} (filled : 0 < k) :
    Significant (digits.take k) := by
  obtain ⟨c, others, rfl, nonzero⟩ := significant.first
  exact ⟨fun d member => significant.ascii d (List.mem_of_mem_take member), c, _,
    List.take_cons filled, nonzero⟩

/-- Nothing but zeros is cut off at the end of digits. -/
theorem exists_eq_append_zeros (digits : List Char) :
    ∃ k, digits = (digits.reverse.dropWhile (· == '0')).reverse ++ List.replicate k '0' := by
  let zeros := digits.reverse.takeWhile (· == '0')
  have all : zeros = List.replicate zeros.length '0' :=
    List.eq_replicate_iff.mpr ⟨rfl, fun d member => by simpa using List.mem_takeWhile_imp member⟩
  refine ⟨zeros.length, ?_⟩
  calc
    digits = (zeros ++ digits.reverse.dropWhile (· == '0')).reverse := by
      rw [List.takeWhile_append_dropWhile, List.reverse_reverse]
    _ = (digits.reverse.dropWhile (· == '0')).reverse ++ zeros.reverse := List.reverse_append
    _ = (digits.reverse.dropWhile (· == '0')).reverse ++ List.replicate zeros.length '0' := by
      rw [all, List.reverse_replicate, List.length_replicate]

/-- The digits of a number are its significant ones and zeros. -/
theorem exists_significant (positive : 0 < n) :
    ∃ significant k, digitTexts n = significant ++ List.replicate k '0' ∧
      ((digitTexts n).reverse.dropWhile (· == '0')).reverse = significant ∧
      Significant significant ∧ 0 < digitsValue significant ∧
      n = digitsValue significant * 10 ^ k := by
  obtain ⟨k, parts⟩ := exists_eq_append_zeros (digitTexts n)
  have value : digitsValue ((digitTexts n).reverse.dropWhile (· == '0')).reverse * 10 ^ k = n := by
    rw [← digitsValue_append_zeros, ← parts]
    exact digitsValue_toDigits n
  refine ⟨_, k, parts, rfl, .of_append_zeros (parts ▸ significant_digitTexts positive), ?_,
    value.symm⟩
  rw [← value] at positive
  exact Nat.pos_of_mul_pos_right positive

end InlineMarkers.Decimal
