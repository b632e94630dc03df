import InlineMarkers.Proofs.Json.NumberReading

/-!
# Written scalars are read back

Null, truth values, integers and floating-point numbers are read back from what
is written for them, if the text does not go on with a number.  No word of JSON
begins with a digit, so a written number is never taken for one.
-/

namespace InlineMarkers.Json

open Calendar

variable {c : Char} {word text rest : List Char} {number : Binary64}

/-! ## Words and signs -/

theorem afterWord?_eq_none (other : ¬word <+: text) : afterWord? word text = none := by
  have differs : (text.take word.length == word) = false := by
    rw [beq_eq_false_iff_ne]
    exact fun same => other (List.prefix_iff_eq_take.mpr same.symm)
  rw [afterWord?, if_neg (by simp [differs])]

/-- No word begins with a digit, also behind a minus sign. -/
theorem exists_cons_of_mem_words {entry : String × Value} (member : entry ∈ words) :
    ∃ first second others, entry.1.toList = first :: second :: others ∧
      first.isDigit = false ∧ (first = '-' → second.isDigit = false) := by
  simp only [words, List.mem_cons, List.not_mem_nil, or_false] at member
  rcases member with rfl | rfl | rfl | rfl | rfl | rfl <;>
    exact ⟨_, _, _, rfl, by decide, by decide⟩

theorem findSome?_words (other : ∀ entry ∈ words, ¬entry.1.toList <+: text) :
    (words.findSome? fun (word, value) =>
      (afterWord? word.toList text).map fun after => (value, after)) = none := by
  rw [List.findSome?_eq_none_iff]
  intro entry member
  simp only [afterWord?_eq_none (other entry member), Option.map_none]

theorem readScalar?_unsigned (digit : c.isDigit = true) (rest : List Char) :
    readScalar? (c :: rest) = readNumber? false (c :: rest) := by
  have noWord : ∀ entry ∈ words, ¬entry.1.toList <+: c :: rest := by
    intro entry member begins
    obtain ⟨first, second, others, shape, notDigit, -⟩ := exists_cons_of_mem_words member
    rw [shape, List.cons_prefix_cons] at begins
    rw [begins.1, digit] at notDigit
    cases notDigit
  unfold readScalar?
  rw [findSome?_words noWord]
  dsimp only
  split
  case h_1 same => cases same
  case h_2 same =>
      cases same
      cases digit
  case h_3 => rfl

theorem readScalar?_negative (digit : c.isDigit = true) (rest : List Char) :
    readScalar? ('-' :: c :: rest) = readNumber? true (c :: rest) := by
  have noWord : ∀ entry ∈ words, ¬entry.1.toList <+: '-' :: c :: rest := by
    intro entry member begins
    obtain ⟨first, second, others, shape, -, notDigit⟩ := exists_cons_of_mem_words member
    rw [shape, List.cons_prefix_cons, List.cons_prefix_cons] at begins
    have notDigit := notDigit begins.1
    rw [begins.2.1, digit] at notDigit
    cases notDigit
  unfold readScalar?
  rw [findSome?_words noWord]
  rfl

theorem exists_digit_of_readNumber? {negative : Bool} {result : Value × List Char}
    (read : readNumber? negative text = some result) :
    ∃ c others, text = c :: others ∧ c.isDigit = true := by
  rw [readNumber?, Option.bind_eq_bind, Option.bind_eq_some_iff] at read
  obtain ⟨parts, whole, -⟩ := read
  unfold wholeDigits? at whole
  split at whole
  · exact ⟨_, _, rfl, by decide⟩
  · split at whole
    case isTrue digit => exact ⟨_, _, rfl, digit⟩
    case isFalse => cases whole
  · cases whole

theorem readScalar?_of_readNumber? {negative : Bool} {result : Value × List Char}
    (read : readNumber? negative text = some result) :
    readScalar? ((if negative then ['-'] else []) ++ text) = some result := by
  obtain ⟨c, others, rfl, digit⟩ := exists_digit_of_readNumber? read
  cases negative with
  | true => exact (readScalar?_negative digit others).trans read
  | false => exact (readScalar?_unsigned digit others).trans read

/-! ## Integers -/

theorem toList_toString (value : Int) :
    (toString value).toList =
      (if decide (value < 0) then ['-'] else []) ++ Nat.toDigits 10 value.natAbs := by
  cases value with
  | ofNat n => exact Nat.toList_repr
  | negSucc n =>
      rw [decide_eq_true (Int.negSucc_lt_zero n), Int.natAbs_negSucc, ← Nat.toList_repr]
      exact String.toList_append

/-- An integer is read back if it has not too many digits. -/
theorem readScalar?_int {value : Int}
    (fits : (Nat.toDigits 10 value.natAbs).length ≤ Numeral.digitLimit) (ends : EndsNumber rest) :
    readScalar? ((toString value).toList ++ rest) = some (.int value, rest) := by
  have same : (if decide (value < 0) then -(value.natAbs : Int) else value.natAbs) = value := by
    simp only [decide_eq_true_eq]
    split <;> omega
  have read := readNumber?_toDigits (decide (value < 0)) fits ends
  rw [same] at read
  rw [toList_toString, List.append_assoc]
  exact readScalar?_of_readNumber? read

/-! ## Floating-point numbers -/

theorem readNumber?_zero (negative : Bool) (ends : EndsNumber rest) :
    readNumber? negative (['0', '.', '0'] ++ rest) =
      some (.float (Binary64.ofMagnitude negative 0), rest) :=
  readNumber?_point negative ['0'] (fun _ => wholeDigits?_zero _) (List.cons_ne_nil '0' [])
    (List.forall_mem_singleton.mpr rfl) ends

/-- Every floating-point number is read back, and the one word for no number as well. -/
theorem readScalar?_float (known : number.isNaN = true → number = Binary64.notANumber)
    (ends : EndsNumber rest) :
    readScalar? (Decimal.write spelling number ++ rest) = some (.float number, rest) := by
  have parts := number.ofMagnitude_magnitude
  by_cases isNaN : number.isNaN = true
  · rw [known isNaN]
    rfl
  rw [Decimal.write, if_neg isNaN, List.append_assoc]
  by_cases isInfinite : number.isInfinite = true
  · rw [if_pos isInfinite]
    rw [Binary64.isInfinite, beq_iff_eq] at isInfinite
    rw [isInfinite] at parts
    rw [← parts]
    cases number.isNegative <;> rfl
  rw [if_neg isInfinite]
  refine readScalar?_of_readNumber? ?_
  by_cases isZero : number.isZero = true
  · rw [if_pos isZero]
    rw [Binary64.isZero, beq_iff_eq] at isZero
    rw [isZero] at parts
    rw [readNumber?_zero _ ends, parts]
  · have finite : number.magnitude < Binary64.infinityMagnitude := by
      simp only [Binary64.isNaN, Binary64.isInfinite, beq_iff_eq, decide_eq_true_eq]
        at isNaN isInfinite
      omega
    obtain ⟨digits, same⟩ := Decimal.read_shortest finite (Bool.eq_false_iff.mpr isZero)
    rw [if_neg isZero, readNumber?_layOut _ digits ends, same]

/-! ## The first character -/

/-- A character that may begin a scalar. -/
def BeginsScalar (c : Char) : Prop :=
  isSpace c = false ∧ c ∉ ['"', '[', '{', ']', '}']

theorem beginsScalar_of_mem_words {entry : String × Value} (member : entry ∈ words) :
    ∃ c others, entry.1.toList = c :: others ∧ BeginsScalar c := by
  simp only [words, List.mem_cons, List.not_mem_nil, or_false] at member
  rcases member with rfl | rfl | rfl | rfl | rfl | rfl <;> exact ⟨_, _, rfl, by decide, by decide⟩

theorem beginsScalar_of_isDigit (digit : c.isDigit = true) : BeginsScalar c := by
  constructor
  · simp only [isSpace, Bool.or_eq_false_iff, beq_eq_false_iff_ne]
    refine ⟨⟨⟨?_, ?_⟩, ?_⟩, ?_⟩ <;> rintro rfl <;> cases digit
  · simp only [List.mem_cons, List.not_mem_nil, or_false]
    rintro (rfl | rfl | rfl | rfl | rfl) <;> cases digit

theorem beginsScalar_of_readScalar? {result : Value × List Char}
    (read : readScalar? text = some result) : ∃ c others, text = c :: others ∧ BeginsScalar c := by
  by_cases noWord : ∀ entry ∈ words, ¬entry.1.toList <+: text
  · unfold readScalar? at read
    rw [findSome?_words noWord] at read
    dsimp only at read
    split at read
    case h_1 same => cases same
    case h_2 => exact ⟨'-', _, rfl, by decide, by decide⟩
    case h_3 =>
        obtain ⟨c, others, shape, digit⟩ := exists_digit_of_readNumber? read
        exact ⟨c, others, shape, beginsScalar_of_isDigit digit⟩
  · simp only [not_forall, not_not] at noWord
    obtain ⟨entry, member, after, rfl⟩ := noWord
    obtain ⟨c, others, shape, begins⟩ := beginsScalar_of_mem_words member
    exact ⟨c, others ++ after, by rw [shape, List.cons_append], begins⟩

end InlineMarkers.Json
