import InlineMarkers.Proofs.Validation.DateLanguage

/-!
# What a typed date names

A typed date that is written with four digits of the year and one or two of the
month and of the day names them in one of four orders.  Exactly the texts that
are put together so are found to name a year, a month and a day, and the numbers
that are found are the ones that stand there.
-/

namespace InlineMarkers

open Text Calendar

namespace DateForm

variable {typed : List Char} {year month day : Nat}

/-- Rows of digits for a year, a month and a day: four for the year, one or two for the others. -/
structure AreParts (years months days : List Char) : Prop where
  year : IsDigits 4 4 years
  month : IsDigits 1 2 months
  day : IsDigits 1 2 days

/-- A text that names a year, a month and a day in digits: the year stands in front or at the
end, and the separators are slashes or hyphens. -/
inductive Names : List Char → Nat → Nat → Nat → Prop where
  | slashed {years months days : List Char} (parts : AreParts years months days) :
      Names (years ++ '/' :: (months ++ '/' :: days))
        (digitsValue years) (digitsValue months) (digitsValue days)
  | monthFirst {years months days : List Char} (parts : AreParts years months days) :
      Names (months ++ '/' :: (days ++ '/' :: years))
        (digitsValue years) (digitsValue months) (digitsValue days)
  | monthFirstHyphens {years months days : List Char} (parts : AreParts years months days) :
      Names (months ++ '-' :: (days ++ '-' :: years))
        (digitsValue years) (digitsValue months) (digitsValue days)
  | hyphenated {years months days : List Char} (parts : AreParts years months days) :
      Names (years ++ '-' :: (months ++ '-' :: days))
        (digitsValue years) (digitsValue months) (digitsValue days)

theorem AreParts.bounds {years months days : List Char} (parts : AreParts years months days) :
    digitsValue years < 10000 ∧ digitsValue months < 100 ∧ digitsValue days < 100 :=
  ⟨digitsValue_lt_of_isDigitRow (isDigitRow_iff.mpr parts.year),
    digitsValue_lt_of_isDigitRow (isDigitRow_iff.mpr parts.month),
    digitsValue_lt_of_isDigitRow (isDigitRow_iff.mpr parts.day)⟩

theorem Names.bounds (names : Names typed year month day) :
    year < 10000 ∧ month < 100 ∧ day < 100 := by
  cases names with
  | slashed parts => exact parts.bounds
  | monthFirst parts => exact parts.bounds
  | monthFirstHyphens parts => exact parts.bounds
  | hyphenated parts => exact parts.bounds

/-- The text names what the form names, if the form names anything. -/
def ReadFrom (form : DateForm) (text : List Char) : Prop :=
  ∀ year month day, form.parts? = some (year, month, day) → Names text year month day

theorem readFrom_of_names {form : DateForm} {text : List Char}
    (named : form.parts? = some (year, month, day)) (names : Names text year month day) :
    form.ReadFrom text := by
  intro _ _ _ again
  rw [named, Option.some.injEq, Prod.mk.injEq, Prod.mk.injEq] at again
  obtain ⟨rfl, rfl, rfl⟩ := again
  exact names

theorem readFrom_ofHyphens (typed : List Char) :
    (ofHyphens typed).ReadFrom (withoutFinalBreak typed) := by
  have joined := joinFields_fields '-' (withoutFinalBreak typed)
  fun_cases ofHyphens typed with
  | case1 a b c cut rows =>
      simp only [Bool.and_eq_true, isDigitRow_iff] at rows
      rw [← joined, cut]
      exact readFrom_of_names rfl (.monthFirstHyphens ⟨rows.2, rows.1.1, rows.1.2⟩)
  | case2 a b c cut _ rows =>
      simp only [Bool.and_eq_true, isDigitRow_iff] at rows
      rw [← joined, cut]
      exact readFrom_of_names rfl (.hyphenated ⟨rows.1.1, rows.1.2, rows.2⟩)
  | case3 => simp [ReadFrom, parts?]
  | case4 => simp [ReadFrom, parts?]

theorem readFrom_numeric (typed : List Char) :
    (numeric typed).ReadFrom (withoutFinalBreak typed) := by
  have joined := joinFields_fields '/' (withoutFinalBreak typed)
  fun_cases numeric typed with
  | case1 a b c cut rows =>
      simp only [Bool.and_eq_true, isDigitRow_iff] at rows
      rw [← joined, cut]
      exact readFrom_of_names rfl (.slashed ⟨rows.1.1, rows.1.2, rows.2⟩)
  | case2 a b c cut _ rows =>
      simp only [Bool.and_eq_true, isDigitRow_iff] at rows
      rw [← joined, cut]
      exact readFrom_of_names rfl (.monthFirst ⟨rows.2, rows.1.1, rows.1.2⟩)
  | case3 => simp [ReadFrom, parts?]
  | case4 => exact readFrom_ofHyphens typed

/-- The numbers that are found in a typed date are those that it names. -/
theorem readFrom_ofText (typed : List Char) :
    (ofText typed).ReadFrom (withoutFinalBreak typed) := by
  fun_cases ofText typed with
  | case1 => simp [ReadFrom, parts?]
  | case2 => simp [ReadFrom, parts?]
  | case3 => exact readFrom_numeric typed

/-! ## What names a date is read -/

/-- Three rows of digits with slashes or hyphens between them. -/
structure IsSeparated (separator : Char) (text first second third : List Char) : Prop where
  parts : text = first ++ separator :: (second ++ separator :: third)
  isSeparator : separator = '/' ∨ separator = '-'
  firstDigits : IsDigits 1 4 first
  secondDigits : IsDigits 1 4 second
  thirdDigits : IsDigits 1 4 third

namespace IsSeparated

variable {separator other : Char} {text first second third : List Char}

theorem notMem (separated : IsSeparated separator text first second third)
    (noDigit : isDecimalDigit other = false) (differs : other ≠ separator) : other ∉ text := by
  simp [separated.parts, separated.firstDigits.notMem noDigit,
    separated.secondDigits.notMem noDigit, separated.thirdDigits.notMem noDigit, differs]

theorem fields_eq (separated : IsSeparated separator text first second third) :
    fields separator text = [first, second, third] := by
  have noDigit : isDecimalDigit separator = false := by
    rcases separated.isSeparator with rfl | rfl <;> decide
  rw [separated.parts, fields_append_separator (separated.firstDigits.notMem noDigit),
    fields_append_separator (separated.secondDigits.notMem noDigit),
    fields_of_notMem (separated.thirdDigits.notMem noDigit)]

/-- Separated rows of digits are no beginning of a date and no keyword. -/
theorem ofText_eq (separated : IsSeparated separator text first second third)
    (upTo : UpToBreak typed text) :
    withoutFinalBreak typed = text ∧ ofText typed = numeric typed := by
  have noBreak : withoutFinalBreak typed = text := by
    refine upTo.withoutFinalBreak_eq (separated.notMem (by decide) ?_)
    rcases separated.isSeparator with rfl | rfl <;> decide
  have inText : separator ∈ text := by simp [separated.parts]
  have inTyped : separator ∈ typed := mem_of_mem_withoutFinalBreak (noBreak ▸ inText)
  have notKeyword : isDateKeyword typed = false := by
    rcases separated.isSeparator with rfl | rfl
    · exact isDateKeyword_of_mem inTyped ⟨by decide, by decide⟩ (by decide)
    · exact isDateKeyword_of_mem inTyped ⟨by decide, by decide⟩ (by decide)
  have notBeginning : isBeginning typed = false := by
    rcases separated.isSeparator with rfl | rfl
    · have noRow : isDigitRow 1 4 text = false := by
        rw [Bool.eq_false_iff]
        exact fun row => (isDigitRow_iff.mp row).notMem (by decide) inText
      have unbroken : '-' ∉ text := separated.notMem (by decide) (by decide)
      simp only [isBeginning, noBreak, fields_of_notMem unbroken, noRow]
    · have filled : third ≠ [] := List.length_pos_iff.mp separated.thirdDigits.1
      obtain ⟨c, rest, rfl⟩ := List.exists_cons_of_ne_nil filled
      simp only [isBeginning, noBreak, separated.fields_eq]
  exact ⟨noBreak, by simp only [ofText, notBeginning, notKeyword, Bool.false_eq_true, if_false]⟩

end IsSeparated

theorem AreParts.rows {years months days : List Char} (parts : AreParts years months days) :
    IsDigits 1 4 years ∧ IsDigits 1 4 months ∧ IsDigits 1 4 days :=
  ⟨parts.year.widen (by decide) (by decide), parts.month.widen (by decide) (by decide),
    parts.day.widen (by decide) (by decide)⟩

/-- A text that names a date is found to name it, with a final line break or without. -/
theorem parts_of_names {text : List Char} (upTo : UpToBreak typed text)
    (names : Names text year month day) : (ofText typed).parts? = some (year, month, day) := by
  cases names with
  | @slashed years months days parts =>
      obtain ⟨yearRow, monthRow, dayRow⟩ := parts.rows
      have separated : IsSeparated '/' _ years months days :=
        ⟨rfl, .inl rfl, yearRow, monthRow, dayRow⟩
      obtain ⟨noBreak, form⟩ := separated.ofText_eq upTo
      simp only [form, numeric, noBreak, separated.fields_eq, isDigitRow_iff.mpr parts.year,
        isDigitRow_iff.mpr parts.month, isDigitRow_iff.mpr parts.day, Bool.and_self, if_true,
        parts?]
  | @monthFirst years months days parts =>
      obtain ⟨yearRow, monthRow, dayRow⟩ := parts.rows
      have separated : IsSeparated '/' _ months days years :=
        ⟨rfl, .inl rfl, monthRow, dayRow, yearRow⟩
      obtain ⟨noBreak, form⟩ := separated.ofText_eq upTo
      simp only [form, numeric, noBreak, separated.fields_eq,
        isDigitRow_eq_false parts.month (.inl (by decide : 2 < 4)), isDigitRow_iff.mpr parts.year,
        isDigitRow_iff.mpr parts.month, isDigitRow_iff.mpr parts.day, Bool.and_self,
        Bool.false_and, Bool.false_eq_true, if_false, if_true, parts?]
  | @monthFirstHyphens years months days parts =>
      obtain ⟨yearRow, monthRow, dayRow⟩ := parts.rows
      have separated : IsSeparated '-' _ months days years :=
        ⟨rfl, .inr rfl, monthRow, dayRow, yearRow⟩
      obtain ⟨noBreak, form⟩ := separated.ofText_eq upTo
      have unslashed : '/' ∉ months ++ '-' :: (days ++ '-' :: years) :=
        separated.notMem (by decide) (by decide)
      simp only [form, numeric, ofHyphens, noBreak, fields_of_notMem unslashed,
        separated.fields_eq, isDigitRow_iff.mpr parts.year, isDigitRow_iff.mpr parts.month,
        isDigitRow_iff.mpr parts.day, Bool.and_self, if_true, parts?]
  | @hyphenated years months days parts =>
      obtain ⟨yearRow, monthRow, dayRow⟩ := parts.rows
      have separated : IsSeparated '-' _ years months days :=
        ⟨rfl, .inr rfl, yearRow, monthRow, dayRow⟩
      have hyphenated : IsHyphenated _ years months days :=
        ⟨rfl, parts.year, parts.month, parts.day⟩
      rw [(separated.ofText_eq upTo).2, hyphenated.numeric_eq upTo]
      rfl

/-- The numbers that are found in a typed date are those that it names. -/
theorem parts_ofText_iff :
    (ofText typed).parts? = some (year, month, day) ↔
      ∃ text, UpToBreak typed text ∧ Names text year month day := by
  constructor
  · intro named
    exact ⟨_, upToBreak_withoutFinalBreak typed, readFrom_ofText typed year month day named⟩
  · rintro ⟨text, upTo, names⟩
    exact parts_of_names upTo names

end DateForm

end InlineMarkers
