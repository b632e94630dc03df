import InlineMarkers.Proofs.Calendar.Gregorian
import InlineMarkers.Proofs.Validation.LocalFix

/-!
# The language of dates

Which texts the check of dates accepts: dates still being typed, keywords, and
the days of the calendar in the years that the settings allow.  No other text is
accepted, as long as there is a tomorrow to offer.
-/

namespace InlineMarkers

open Text Calendar

namespace DateForm

variable {typed text year month day : List Char}

/-- A date that is typed up to a digit of its year, up to its month, or up to the hyphen
behind its month. -/
inductive IsUnfinished : List Char → Prop where
  | year {year : List Char} (yearDigits : IsDigits 1 4 year) : IsUnfinished year
  | month {year month : List Char} (yearDigits : IsDigits 4 4 year)
      (monthDigits : IsDigits 0 2 month) : IsUnfinished (year ++ '-' :: month)
  | hyphen {year month : List Char} (yearDigits : IsDigits 4 4 year)
      (monthDigits : IsDigits 1 2 month) : IsUnfinished (year ++ '-' :: (month ++ ['-']))

/-- A text that is put together of a year of four digits, a month and a day of one or two
digits each, and hyphens between them. -/
structure IsHyphenated (text year month day : List Char) : Prop where
  parts : text = year ++ '-' :: (month ++ '-' :: day)
  yearDigits : IsDigits 4 4 year
  monthDigits : IsDigits 1 2 month
  dayDigits : IsDigits 1 2 day

/-! ## Unfinished dates -/

theorem fields_hyphen {shortest longest : Nat} (digits : IsDigits shortest longest text)
    (rest : List Char) : fields '-' (text ++ '-' :: rest) = text :: fields '-' rest :=
  fields_append_separator (digits.notMem (by decide)) rest

theorem fields_digits {shortest longest : Nat} (digits : IsDigits shortest longest text) :
    fields '-' text = [text] :=
  fields_of_notMem (digits.notMem (by decide))

theorem IsUnfinished.unbroken (unfinished : IsUnfinished text) : '\n' ∉ text := by
  have noDigit : isDecimalDigit '\n' = false := by decide
  cases unfinished with
  | year yearDigits => exact yearDigits.notMem noDigit
  | month yearDigits monthDigits =>
      simp [yearDigits.notMem noDigit, monthDigits.notMem noDigit]
  | hyphen yearDigits monthDigits =>
      simp [yearDigits.notMem noDigit, monthDigits.notMem noDigit]

theorem IsUnfinished.isBeginning (unfinished : IsUnfinished text) (upTo : UpToBreak typed text) :
    isBeginning typed = true := by
  have noBreak := upTo.withoutFinalBreak_eq unfinished.unbroken
  cases unfinished with
  | year yearDigits =>
      simp only [DateForm.isBeginning, noBreak, fields_digits yearDigits,
        isDigitRow_iff.mpr yearDigits]
  | month yearDigits monthDigits =>
      simp only [DateForm.isBeginning, noBreak, fields_hyphen yearDigits,
        fields_digits monthDigits, isDigitRow_iff.mpr yearDigits, isDigitRow_iff.mpr monthDigits,
        Bool.and_self]
  | hyphen yearDigits monthDigits =>
      simp only [DateForm.isBeginning, noBreak, fields_hyphen yearDigits,
        fields_hyphen monthDigits, fields, isDigitRow_iff.mpr yearDigits,
        isDigitRow_iff.mpr monthDigits, Bool.and_self]

theorem isUnfinished_of_isBeginning (beginning : isBeginning typed = true) :
    IsUnfinished (withoutFinalBreak typed) := by
  have joined := joinFields_fields '-' (withoutFinalBreak typed)
  simp only [isBeginning] at beginning
  split at beginning
  · rename_i year cut
    rw [cut] at joined
    rw [← joined]
    exact .year (isDigitRow_iff.mp beginning)
  · rename_i year month cut
    rw [Bool.and_eq_true] at beginning
    rw [cut] at joined
    rw [← joined]
    exact .month (isDigitRow_iff.mp beginning.1) (isDigitRow_iff.mp beginning.2)
  · rename_i year month cut
    rw [Bool.and_eq_true] at beginning
    rw [cut] at joined
    rw [← joined]
    exact .hyphen (isDigitRow_iff.mp beginning.1) (isDigitRow_iff.mp beginning.2)
  · exact absurd beginning (by decide)

theorem isBeginning_iff :
    isBeginning typed = true ↔ ∃ text, UpToBreak typed text ∧ IsUnfinished text := by
  constructor
  · intro beginning
    exact ⟨_, upToBreak_withoutFinalBreak typed, isUnfinished_of_isBeginning beginning⟩
  · rintro ⟨text, upTo, unfinished⟩
    exact unfinished.isBeginning upTo

theorem isDateKeyword_iff :
    isDateKeyword typed = true ↔ ∃ word ∈ dateKeywords, lower (trim typed) = word.toList := by
  simp only [isDateKeyword, List.any_eq_true, beq_iff_eq, eq_comm (a := lower (trim typed))]

/-! ## Hyphenated dates -/

namespace IsHyphenated

theorem unbroken (hyphenated : IsHyphenated text year month day) : '\n' ∉ text := by
  have noDigit : isDecimalDigit '\n' = false := by decide
  rw [hyphenated.parts]
  simp [hyphenated.yearDigits.notMem noDigit, hyphenated.monthDigits.notMem noDigit,
    hyphenated.dayDigits.notMem noDigit]

theorem unslashed (hyphenated : IsHyphenated text year month day) : '/' ∉ text := by
  have noDigit : isDecimalDigit '/' = false := by decide
  rw [hyphenated.parts]
  simp [hyphenated.yearDigits.notMem noDigit, hyphenated.monthDigits.notMem noDigit,
    hyphenated.dayDigits.notMem noDigit]

theorem fields_eq (hyphenated : IsHyphenated text year month day) :
    fields '-' text = [year, month, day] := by
  rw [hyphenated.parts, fields_hyphen hyphenated.yearDigits, fields_hyphen hyphenated.monthDigits,
    fields_digits hyphenated.dayDigits]

/-- A hyphenated date has the right form: it has no slashes, and it does not begin with a
month, which has fewer digits than a year. -/
theorem numeric_eq (hyphenated : IsHyphenated text year month day)
    (upTo : UpToBreak typed text) :
    numeric typed = iso (digitsValue year) (digitsValue month) (digitsValue day) := by
  have noBreak := upTo.withoutFinalBreak_eq hyphenated.unbroken
  have noMonth : isDigitRow 1 2 year = false :=
    isDigitRow_eq_false hyphenated.yearDigits (.inr (by decide))
  simp only [numeric, ofHyphens, noBreak, fields_of_notMem hyphenated.unslashed,
    hyphenated.fields_eq, noMonth, isDigitRow_iff.mpr hyphenated.yearDigits,
    isDigitRow_iff.mpr hyphenated.monthDigits, isDigitRow_iff.mpr hyphenated.dayDigits,
    Bool.false_and, Bool.and_self, Bool.false_eq_true, if_false, if_true]

/-- A hyphenated date is not unfinished, since its day has a digit. -/
theorem isBeginning_eq (hyphenated : IsHyphenated text year month day)
    (upTo : UpToBreak typed text) : isBeginning typed = false := by
  have noBreak := upTo.withoutFinalBreak_eq hyphenated.unbroken
  have filled : day ≠ [] := List.length_pos_iff.mp hyphenated.dayDigits.1
  obtain ⟨first, rest, rfl⟩ := List.exists_cons_of_ne_nil filled
  simp only [isBeginning, noBreak, hyphenated.fields_eq]

/-- A hyphenated date in ASCII digits begins with one. -/
theorem exists_first (hyphenated : IsHyphenated text year month day)
    (ascii : ∀ c ∈ text, c.isDigit = true ∨ c = '-') :
    ∃ first rest, text = first :: rest ∧ first.isDigit = true := by
  have filled : year ≠ [] :=
    List.length_pos_iff.mp (Nat.lt_of_lt_of_le (by decide) hyphenated.yearDigits.1)
  obtain ⟨first, rest, rfl⟩ := List.exists_cons_of_ne_nil filled
  have noHyphen : first ≠ '-' := by
    rintro rfl
    exact hyphenated.yearDigits.notMem (by decide) List.mem_cons_self
  have inText : first ∈ text := by
    rw [hyphenated.parts]
    exact List.mem_cons_self
  exact ⟨first, _, hyphenated.parts, (ascii first inText).resolve_right noHyphen⟩

/-- A hyphenated date names its year, month and day. -/
theorem ofText_eq (hyphenated : IsHyphenated text year month day) :
    ofText text = iso (digitsValue year) (digitsValue month) (digitsValue day) := by
  have hyphen : '-' ∈ text := by simp [hyphenated.parts]
  have notKeyword : isDateKeyword text = false :=
    isDateKeyword_of_mem hyphen ⟨by decide, by decide⟩ (by decide)
  rw [ofText, hyphenated.isBeginning_eq (.inl rfl), notKeyword, hyphenated.numeric_eq (.inl rfl)]
  rfl

end IsHyphenated

theorem isHyphenated_of_numeric {yearNumber monthNumber dayNumber : Nat}
    (form : numeric typed = iso yearNumber monthNumber dayNumber) :
    ∃ year month day, IsHyphenated (withoutFinalBreak typed) year month day ∧
      digitsValue year = yearNumber ∧ digitsValue month = monthNumber ∧
      digitsValue day = dayNumber := by
  have joined := joinFields_fields '-' (withoutFinalBreak typed)
  have hyphens : ofHyphens typed = iso yearNumber monthNumber dayNumber := by
    simp only [numeric] at form
    split at form
    · split at form
      · simp at form
      · split at form <;> simp at form
    · exact form
  simp only [ofHyphens] at hyphens
  split at hyphens
  · rename_i year month day cut
    rw [cut] at joined
    split at hyphens
    · simp at hyphens
    split at hyphens
    · rename_i rows
      simp only [Bool.and_eq_true] at rows
      simp only [iso.injEq] at hyphens
      exact ⟨year, month, day, ⟨joined.symm, isDigitRow_iff.mp rows.1.1,
        isDigitRow_iff.mp rows.1.2, isDigitRow_iff.mp rows.2⟩, hyphens⟩
    · simp at hyphens
  · simp at hyphens

/-- A numeric form is neither a beginning nor a keyword. -/
theorem numeric_ne (typed : List Char) :
    numeric typed ≠ beginning ∧ numeric typed ≠ keyword := by
  simp only [numeric, ofHyphens]
  repeat' split
  all_goals simp

end DateForm

namespace Calendar.Date

/-- A date is written in hyphenated form, each number in all digits of its width. -/
theorem exists_text_parts (date : Date) : ∃ year month day : Nat,
    (date.year = year ∧ date.month = month ∧ date.day = day ∧ month < 100 ∧ day < 100) ∧
      DateForm.IsHyphenated date.text (padded 4 year) (padded 2 month) (padded 2 day) := by
  obtain ⟨year, month, day, yearPos, yearLe, monthPos, monthLe, dayPos, dayLe⟩ := date
  lift year to Nat using by omega
  lift month to Nat using by omega
  lift day to Nat using by omega
  have longest := daysInMonth_le_thirtyOne month year
  have yearDigits : IsDigits 4 4 (padded 4 year) := isDigits_padded (by decide) (by omega)
  exact ⟨year, month, day, ⟨rfl, rfl, rfl, by omega, by omega⟩, by simp [text], yearDigits,
    isDigits_padded_two (by omega), isDigits_padded_two (by omega)⟩

theorem isDigit_of_mem_text {date : Date} {c : Char} (member : c ∈ date.text) :
    c.isDigit = true ∨ c = '-' := by
  obtain ⟨year, month, day, -, hyphenated⟩ := date.exists_text_parts
  rw [hyphenated.parts] at member
  exact isDigit_of_mem_hyphenated (fun _ => isDigit_of_mem_padded)
    (fun _ => isDigit_of_mem_padded) (fun _ => isDigit_of_mem_padded) member

theorem ofText_text (date : Date) :
    ∃ year month day, DateForm.ofText date.text = .iso year month day := by
  obtain ⟨_, _, _, -, hyphenated⟩ := date.exists_text_parts
  exact ⟨_, _, _, hyphenated.ofText_eq⟩

end Calendar.Date

namespace Validation

open DateForm

variable {config : MarkerConfig} {today : Date} {value : List Char} {start : Nat}

/-- A day of the calendar in a year that the settings allow, written with hyphens. -/
def IsAllowedDay (config : MarkerConfig) (text : List Char) : Prop :=
  ∃ year month day, IsHyphenated text year month day ∧
    IsDay (digitsValue year) (digitsValue month) (digitsValue day) ∧
    config.firstYear ≤ digitsValue year ∧ digitsValue year ≤ config.lastYear

theorem checkDate_of_hyphenated {year month day : List Char}
    (hyphenated : IsHyphenated value year month day) (start : Nat) :
    checkDate config today value start = .ok (checkIso config today value start
      (digitsValue year) (digitsValue month) (digitsValue day)) := by
  have filled : value.isEmpty = false := by simp [hyphenated.parts]
  simp only [checkDate, filled, hyphenated.ofText_eq, Bool.false_eq_true, if_false]

/-- A date in the right form is accepted when it is a day of an allowed year. -/
theorem checkIso_eq_none_iff {year month day : Int} :
    checkIso config today value start year month day = none ↔
      IsDay year month day ∧ config.firstYear ≤ year ∧ year ≤ config.lastYear := by
  rw [isDay_iff]
  have longest := daysInMonth_le_thirtyOne month year
  simp only [checkIso]
  constructor
  · intro accepted
    split at accepted
    · simp at accepted
    split at accepted
    · simp at accepted
    split at accepted
    · simp at accepted
    split at accepted
    · omega
    · simp at accepted
  · rintro ⟨⟨inYear, first, last⟩, allowed⟩
    rw [if_neg (by omega), if_neg (by omega), if_neg (by omega), if_pos last]

theorem checkDate_eq_ok_none_iff (config : MarkerConfig) (today : Date) (value : List Char)
    (start : Nat) :
    checkDate config today value start = .ok none ↔
      value = [] ∨ (∃ text, UpToBreak value text ∧ IsUnfinished text) ∨
      (∃ word ∈ dateKeywords, lower (trim value) = word.toList) ∨
      ∃ text, UpToBreak value text ∧ IsAllowedDay config text := by
  rw [← isBeginning_iff, ← isDateKeyword_iff]
  by_cases empty : value = []
  · exact iff_of_true (by rw [empty]; rfl) (.inl empty)
  by_cases beginning : isBeginning value = true
  · refine iff_of_true ?_ (.inr (.inl beginning))
    rw [checkDate, if_neg (by simpa using empty), ofText, if_pos beginning]
  by_cases keyword : isDateKeyword value = true
  · refine iff_of_true ?_ (.inr (.inr (.inl keyword)))
    rw [checkDate, if_neg (by simpa using empty), ofText, if_neg beginning, if_pos keyword]
  have form : ofText value = numeric value := by rw [ofText, if_neg beginning, if_neg keyword]
  simp only [empty, beginning, keyword, Bool.false_eq_true, false_or]
  rw [checkDate, if_neg (by simpa using empty), form]
  constructor
  · intro accepted
    refine ⟨_, upToBreak_withoutFinalBreak value, ?_⟩
    split at accepted
    · rename_i isBeginning
      exact absurd isBeginning (numeric_ne value).1
    · rename_i isKeyword
      exact absurd isKeyword (numeric_ne value).2
    · simp at accepted
    · simp at accepted
    · simp at accepted
    · rename_i isIso
      obtain ⟨year, month, day, hyphenated, rfl, rfl, rfl⟩ := isHyphenated_of_numeric isIso
      obtain ⟨isDay, first, last⟩ := checkIso_eq_none_iff.mp (Except.ok.inj accepted)
      exact ⟨year, month, day, hyphenated, isDay, by omega, by omega⟩
    · split at accepted <;> simp at accepted
  · rintro ⟨text, upTo, year, month, day, hyphenated, isDay, first, last⟩
    rw [hyphenated.numeric_eq upTo]
    exact congrArg Except.ok (checkIso_eq_none_iff.mpr ⟨isDay, by omega, by omega⟩)

theorem checkDate_keyword (keyword : isDateKeyword value = true) (start : Nat) :
    checkDate config today value start = .ok none :=
  (checkDate_eq_ok_none_iff config today value start).mpr
    (.inr (.inr (.inl (isDateKeyword_iff.mp keyword))))

/-- The check of a date has an answer on every day but the last one of the calendar. -/
theorem exists_checkDate_eq_ok (config : MarkerConfig) (value : List Char) (start : Nat)
    (notLast : ¬(today.year = 9999 ∧ today.month = 12 ∧ today.day = 31)) :
    ∃ outcome, checkDate config today value start = .ok outcome := by
  obtain ⟨tomorrow, next⟩ := Option.isSome_iff_exists.mp (today.tomorrow?_isSome notLast)
  simp only [checkDate, next]
  repeat' split
  all_goals exact ⟨_, rfl⟩

/-- No diagnostic is made of a date exactly when nothing is typed, when it is unfinished, when
it is a keyword, or when it is a day of the calendar in an allowed year.  One final line break
does not matter, and around a keyword neither do blanks and capitals. -/
theorem diagnose_date_eq_none_iff (config : MarkerConfig) (today : Date) (value : List Char)
    (start : Nat) (notLast : ¬(today.year = 9999 ∧ today.month = 12 ∧ today.day = 31)) :
    diagnose noFaults config today .date value start = none ↔
      value = [] ∨
      (∃ text, UpToBreak value text ∧ IsUnfinished text) ∨
      (∃ word ∈ dateKeywords, lower (trim value) = word.toList) ∨
      ∃ text, UpToBreak value text ∧ IsAllowedDay config text := by
  rw [← checkDate_eq_ok_none_iff config today value start]
  obtain ⟨outcome, isOutcome⟩ := exists_checkDate_eq_ok config value start notLast
  have checked : checkValue config today .date value start = .ok outcome := isOutcome
  rw [diagnose_of_checkValue checked, isOutcome, Except.ok.injEq]

/-- The twenty-ninth of February of a leap year, in the digits of another script and with a
line break behind it. -/
theorem diagnose_date_eq_none_iff_leap_day :
    ¬(newYear.year = 9999 ∧ newYear.month = 12 ∧ newYear.day = 31) ∧
    diagnose noFaults .standard newYear .date "٢٠٢٤-2-29\n".toList 1 = none ∧
    diagnose noFaults .standard newYear .date "٢٠٢٣-2-29\n".toList 1 ≠ none := by
  have notLast : ¬(newYear.year = 9999 ∧ newYear.month = 12 ∧ newYear.day = 31) := by decide
  refine ⟨notLast, ?_, ?_⟩
  · refine (diagnose_date_eq_none_iff _ _ _ _ notLast).mpr (.inr (.inr (.inr ?_)))
    refine ⟨"٢٠٢٤-2-29".toList, .inr (by decide), "٢٠٢٤".toList, "2".toList, "29".toList,
      ?_, ?_, ?_⟩
    · exact ⟨by decide, isDigitRow_iff.mp (by decide), isDigitRow_iff.mp (by decide),
        isDigitRow_iff.mp (by decide)⟩
    · exact .leapDay (by decide)
    · decide
  · decide

end Validation

end InlineMarkers
