import InlineMarkers.Json.Reader
import InlineMarkers.Json.Writer
import InlineMarkers.Proofs.Text.Runs
import InlineMarkers.Proofs.Value.SignificantDigits

/-!
# Written numbers are read back

A number ends where no digit, point or exponent follows.  A whole number is read
back from its digits, and a floating-point number from its shortest decimal,
however that is laid out.
-/

namespace InlineMarkers.Json

open Text Decimal Calendar

variable {whole decimals digits afterWhole rest : List Char} {negative : Bool} {point : Int}

/-- A text that does not go on with a number. -/
def EndsNumber (rest : List Char) : Prop :=
  ∀ c ∈ rest.head?, c.isDigit = false ∧ c ≠ '.' ∧ c ≠ 'e' ∧ c ≠ 'E'

/-! ## The parts of a number -/

theorem wholeDigits?_zero (rest : List Char) : wholeDigits? ('0' :: rest) = some (['0'], rest) :=
  rfl

theorem wholeDigits?_significant (significant : Significant whole)
    (ends : ∀ c ∈ rest.head?, c.isDigit = false) :
    wholeDigits? (whole ++ rest) = some (whole, rest) := by
  obtain ⟨c, others, rfl, nonzero⟩ := significant.first
  have digit := significant.ascii c List.mem_cons_self
  have inside : ∀ d ∈ others, d.isDigit = true := fun d member =>
    significant.ascii d (List.mem_cons_of_mem c member)
  rw [List.cons_append, wholeDigits?]
  · rw [if_pos digit, takeWhile_append_of_head inside ends, dropWhile_append_of_head inside ends]
  · exact nonzero

theorem fraction_none (noPoint : '.' ∉ rest.head?) : fraction rest = ([], rest) := by
  cases rest with
  | nil => rfl
  | cons c more =>
      rw [fraction]
      intro _ same
      cases same
      exact noPoint rfl

theorem fraction_digits (filled : decimals ≠ []) (inside : ∀ c ∈ decimals, c.isDigit = true)
    (ends : ∀ c ∈ rest.head?, c.isDigit = false) :
    fraction ('.' :: (decimals ++ rest)) = (decimals, rest) := by
  rw [fraction, takeWhile_append_of_head inside ends, dropWhile_append_of_head inside ends]
  cases decimals with
  | nil => exact absurd rfl filled
  | cons c others => rfl

theorem exponent?_none (noSign : ∀ c ∈ rest.head?, c ≠ 'e' ∧ c ≠ 'E') :
    exponent? rest = none := by
  cases rest with
  | nil => rfl
  | cons c more =>
      obtain ⟨notLower, notUpper⟩ := noSign c rfl
      simp [exponent?, notLower, notUpper]

theorem exponent?_signed {sign : Char} (isSign : sign = '-' ∨ sign = '+') (filled : digits ≠ [])
    (inside : ∀ c ∈ digits, c.isDigit = true) (ends : ∀ c ∈ rest.head?, c.isDigit = false) :
    exponent? ('e' :: sign :: (digits ++ rest)) =
      some ((if sign = '-' then -1 else 1) * (digitsValue digits : Int), rest) := by
  have run := takeWhile_append_of_head inside ends
  have after := dropWhile_append_of_head inside ends
  obtain ⟨c, others, rfl⟩ := List.exists_cons_of_ne_nil filled
  rcases isSign with rfl | rfl <;> simp only [exponent?, run, after] <;> rfl

/-! ## Whole numbers -/

theorem wholeDigits?_toDigits (n : Nat) (ends : ∀ c ∈ rest.head?, c.isDigit = false) :
    wholeDigits? (Nat.toDigits 10 n ++ rest) = some (Nat.toDigits 10 n, rest) := by
  rcases Nat.eq_zero_or_pos n with rfl | positive
  · exact wholeDigits?_zero rest
  · exact wholeDigits?_significant (significant_digitTexts positive) ends

theorem readNumber?_toDigits (negative : Bool) {n : Nat}
    (fits : (Nat.toDigits 10 n).length ≤ Numeral.digitLimit) (ends : EndsNumber rest) :
    readNumber? negative (Nat.toDigits 10 n ++ rest) =
      some (.int (if negative then -n else n), rest) := by
  have noFraction : fraction rest = ([], rest) :=
    fraction_none fun point => (ends '.' point).2.1 rfl
  have noExponent : exponent? rest = none := exponent?_none fun c member => (ends c member).2.2
  rw [readNumber?, wholeDigits?_toDigits n fun c member => (ends c member).1]
  simp only [Option.bind_eq_bind, Option.bind_some, noFraction, noExponent,
    if_neg (Nat.not_lt.mpr fits), digitsValue_toDigits]

/-! ## Floating-point numbers -/

theorem readNumber?_float (negative : Bool) {afterFraction : List Char}
    {scale : Option (Int × List Char)}
    (first : wholeDigits? (whole ++ afterWhole) = some (whole, afterWhole))
    (second : fraction afterWhole = (decimals, afterFraction))
    (third : exponent? afterFraction = scale) (isFloat : decimals ≠ [] ∨ scale ≠ none) :
    readNumber? negative (whole ++ afterWhole) =
      some (.float (Decimal.read negative (digitsValue (whole ++ decimals))
        ((scale.getD (0, afterFraction)).1 - decimals.length)),
          (scale.getD (0, afterFraction)).2) := by
  rw [readNumber?, first]
  simp only [Option.bind_eq_bind, Option.bind_some, second, third]
  split
  · simp at isFloat
  · rfl

theorem readNumber?_point (negative : Bool) (whole : List Char)
    (first : ∀ {after}, (∀ c ∈ after.head?, c.isDigit = false) →
      wholeDigits? (whole ++ after) = some (whole, after))
    (filled : decimals ≠ []) (inside : ∀ c ∈ decimals, c.isDigit = true) (ends : EndsNumber rest) :
    readNumber? negative (whole ++ '.' :: (decimals ++ rest)) =
      some (.float (Decimal.read negative (digitsValue (whole ++ decimals)) (-decimals.length)),
        rest) := by
  have atPoint : ∀ c ∈ ('.' :: (decimals ++ rest)).head?, c.isDigit = false := by simp
  rw [readNumber?_float negative (first atPoint)
    (fraction_digits filled inside fun c member => (ends c member).1)
    (exponent?_none fun c member => (ends c member).2.2) (.inl filled)]
  simp

/-- The digits with the point among them, behind them or in front of them. -/
theorem readNumber?_positional (negative : Bool) (significant : Significant digits)
    (positive : 0 < digitsValue digits) (point : Int) (ends : EndsNumber rest) :
    readNumber? negative (positional digits point ++ rest) =
      some (.float (Decimal.read negative (digitsValue digits) (point - digits.length)), rest) := by
  unfold positional
  split
  case isTrue small =>
      have filled : List.replicate (-point).toNat '0' ++ digits ≠ [] := by
        obtain ⟨c, others, rfl, -⟩ := significant.first
        exact List.append_ne_nil_of_right_ne_nil _ (List.cons_ne_nil c others)
      have inside : ∀ c ∈ List.replicate (-point).toNat '0' ++ digits, c.isDigit = true :=
        fun c member => (List.mem_append.mp member).elim (isDigit_of_mem_zeros c)
          (significant.ascii c)
      have value := digitsValue_zeros_append digits ((-point).toNat + 1)
      have exponent : -((List.replicate (-point).toNat '0' ++ digits).length : Int) =
          point - digits.length := by
        rw [List.length_append, List.length_replicate]
        omega
      rw [← value, ← exponent]
      exact readNumber?_point negative ['0'] (fun _ => wholeDigits?_zero _) filled inside ends
  case isFalse large =>
      split
      case isTrue short =>
          have whole := significant.append_zeros (point.toNat - digits.length)
          have value := digitsValue_append_zeros digits (point.toNat - digits.length + 1)
          rw [List.replicate_succ', ← List.append_assoc] at value
          have read := readNumber?_point negative _ (wholeDigits?_significant whole)
            (List.cons_ne_nil '0' []) (List.forall_mem_singleton.mpr rfl) ends
          have exponent : -(['0'].length : Int) + (point.toNat - digits.length + 1 : Nat) =
              point - digits.length := by
            rw [List.length_singleton]
            omega
          rw [value, read_mul_pow negative positive, exponent] at read
          rwa [List.append_assoc _ ['.', '0'] rest]
      case isFalse long =>
          have filled : digits.drop point.toNat ≠ [] :=
            List.ne_nil_of_length_pos (by rw [List.length_drop]; omega)
          have read := readNumber?_point negative _
            (wholeDigits?_significant (significant.take (by omega : 0 < point.toNat))) filled
            (fun c member => significant.ascii c (List.mem_of_mem_drop member)) ends
          have exponent : -((digits.drop point.toNat).length : Int) = point - digits.length := by
            rw [List.length_drop]
            omega
          rw [List.take_append_drop, exponent] at read
          rwa [List.append_assoc, List.cons_append]

/-- An exponent of ten as it is written. -/
def exponentText (exponent : Int) : List Char :=
  'e' :: (if exponent < 0 then '-' else '+') ::
    (List.replicate (2 - (digitTexts exponent.natAbs).length) '0' ++ digitTexts exponent.natAbs)

theorem exponent?_exponentText (exponent : Int) (ends : EndsNumber rest) :
    exponent? (exponentText exponent ++ rest) = some (exponent, rest) := by
  have same := padded_natCast 2 exponent.natAbs
  have filled : padded 2 exponent.natAbs ≠ [] := by
    rw [same]
    simp [Nat.toDigits_ne_nil]
  have isSign : (if exponent < 0 then '-' else '+') = '-' ∨
      (if exponent < 0 then '-' else '+') = '+' := by
    split <;> simp
  have read := exponent?_signed isSign filled (fun c => isDigit_of_mem_padded)
    fun c member => (ends c member).1
  have signed : (if (if exponent < 0 then '-' else '+') = '-' then -1 else 1) *
      (exponent.natAbs : Int) = exponent := by
    rcases Int.lt_or_le exponent 0 with less | atLeast
    · rw [if_pos less, if_pos rfl]
      omega
    · rw [if_neg (Int.not_lt.mpr atLeast), if_neg (by decide)]
      omega
  rwa [digitsValue_padded, signed, same] at read

theorem readNumber?_scientific (negative : Bool) (significant : Significant digits) (point : Int)
    (ends : EndsNumber rest) :
    readNumber? negative (scientific digits point ++ rest) =
      some (.float (Decimal.read negative (digitsValue digits) (point - digits.length)), rest) := by
  obtain ⟨c, others, rfl, -⟩ := significant.first
  have whole : Significant [c] := significant.take Nat.one_pos
  have atExponent : ∀ d ∈ (exponentText (point - 1) ++ rest).head?, d.isDigit = false := by
    simp [exponentText]
  have scale := exponent?_exponentText (point - 1) ends
  have length : ((c :: others).length : Int) = others.length + 1 := by simp
  have exponent : point - 1 - others.length = point - (c :: others).length := by omega
  rw [← exponent]
  cases others with
  | nil =>
      have read := readNumber?_float negative (wholeDigits?_significant whole atExponent)
        (fraction_none (by simp [exponentText])) scale (.inr (Option.some_ne_none _))
      exact read
  | cons d more =>
      have inside : ∀ other ∈ d :: more, other.isDigit = true := fun other member =>
        significant.ascii other (List.mem_cons_of_mem c member)
      have atPoint : ∀ other ∈ ('.' :: (d :: more ++ (exponentText (point - 1) ++ rest))).head?,
          other.isDigit = false := by simp
      have read := readNumber?_float negative (wholeDigits?_significant whole atPoint)
        (fraction_digits (List.cons_ne_nil d more) inside atExponent) scale
        (.inr (Option.some_ne_none _))
      rw [← List.append_assoc] at read
      exact read

/-- A decimal is read back from its digits, however they are laid out. -/
theorem readNumber?_layOut (negative : Bool) {decimal : Scaled} (nonzero : decimal.digits ≠ 0)
    (ends : EndsNumber rest) :
    readNumber? negative (layOut decimal ++ rest) =
      some (.float (Decimal.read negative decimal.digits decimal.exponent), rest) := by
  obtain ⟨digits, k, parts, cut, significant, positive, value⟩ :=
    exists_significant (Nat.pos_of_ne_zero nonzero)
  have exponent : decimal.exponent + k =
      (digitTexts decimal.digits).length + decimal.exponent - digits.length := by
    rw [parts, List.length_append, List.length_replicate]
    omega
  unfold layOut
  dsimp only
  rw [cut, value, read_mul_pow negative positive, ← value, exponent]
  split
  · exact readNumber?_positional negative significant positive _ ends
  · exact readNumber?_scientific negative significant _ ends

end InlineMarkers.Json
