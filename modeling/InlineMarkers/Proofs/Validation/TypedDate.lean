import InlineMarkers.Proofs.Validation.DateLanguage
import InlineMarkers.Proofs.Validation.RoundTrip

/-!
# Dates while they are typed

A valid date is typed character by character, and the note is validated after each
of them.  Up to the hyphen behind the month the date is unfinished, and nothing is
found.  With one digit of its day it is read as a date already, and that digit is a
day of the month unless it is a zero.
-/

namespace InlineMarkers

open Text Tokenizer Calendar

namespace DateForm

variable {typed text year month day : List Char}

theorem IsUnfinished.length_le (unfinished : IsUnfinished typed) : typed.length ≤ 8 := by
  cases unfinished with
  | year yearDigits =>
      have fewOfYear := yearDigits.2.1
      omega
  | month yearDigits monthDigits =>
      have fewOfYear := yearDigits.2.1
      have fewOfMonth := monthDigits.2.1
      simp only [List.length_append, List.length_cons]
      omega
  | hyphen yearDigits monthDigits =>
      have fewOfYear := yearDigits.2.1
      have fewOfMonth := monthDigits.2.1
      simp only [List.length_append, List.length_cons, List.length_nil]
      omega

/-- A hyphenated date that is typed up to some place is unfinished, or it is hyphenated with
the digits of its day that are typed. -/
theorem IsHyphenated.cases_of_prefix (hyphenated : IsHyphenated text year month day)
    (begins : typed <+: text) :
    typed = [] ∨ IsUnfinished typed ∨
      ∃ typedDay, typedDay <+: day ∧ IsHyphenated typed year month typedDay := by
  obtain ⟨rfl, yearDigits, monthDigits, dayDigits⟩ := hyphenated
  rcases prefix_append_separator begins with inYear | ⟨afterYear, rfl, follows⟩
  · rcases List.eq_nil_or_concat typed with rfl | ⟨_, _, rfl⟩
    · exact .inl rfl
    · exact .inr (.inl (.year (yearDigits.of_prefix inYear (by simp))))
  rcases prefix_append_separator follows with inMonth | ⟨typedDay, rfl, inDay⟩
  · exact .inr (.inl (.month yearDigits (monthDigits.of_prefix inMonth (Nat.zero_le _))))
  cases typedDay with
  | nil => exact .inr (.inl (.hyphen yearDigits monthDigits))
  | cons first rest =>
      exact .inr (.inr ⟨_, inDay, rfl, yearDigits, monthDigits,
        dayDigits.of_prefix inDay (by simp)⟩)

end DateForm

namespace Tokenizer

/-- A text that is a numeric date has that date as its only marker. -/
theorem tokenize_date {first : Char} {run : List Char} (digit : first.isDigit = true)
    (inside : ∀ c ∈ run, Lexeme.isDateCharacter c = true) :
    tokenize ('@' :: first :: run) =
      [(⟨.date, 1, first :: run, 0⟩ : Lexeme).toMarker 0] := by
  have token := Token.numeric digit inside
  have found : read? ('@' :: first :: run) = some ⟨.date, 1, first :: run, 0⟩ :=
    read?_eq_some_iff.mpr ⟨_, [], _, token, (List.append_nil _).symm, by simp⟩
  rw [tokenize, walkFrom_of_some found, ← token.length_eq, List.drop_length, walkFrom_nil]
  rfl

end Tokenizer

namespace Validation

variable {config : MarkerConfig} {today date : Date} {value typed text : List Char}
  {diagnostic : Diagnostic}

theorem checkIso_dayZero {year month : Int}
    (allowed : config.firstYear ≤ year ∧ year ≤ config.lastYear) (inYear : 1 ≤ month ∧ month ≤ 12)
    (start : Nat) :
    checkIso config today value start year month 0 = some (dayRange value start year month 0) := by
  rw [checkIso, if_neg (by omega), if_neg (by omega), if_pos (by decide)]

/-- While a date is typed, nothing is found but a first digit of its day that is a zero. -/
theorem checkDate_of_prefix (today : Date)
    (allowed : config.firstYear ≤ date.year ∧ date.year ≤ config.lastYear)
    (begins : typed <+: date.text) (start : Nat) :
    checkDate config today typed start =
      .ok (if typed.length = 9 ∧ date.day < 10 then
        some (dayRange typed start date.year date.month 0) else none) := by
  obtain ⟨year, month, day, ⟨yearEq, monthEq, dayEq, monthSmall, daySmall⟩, hyphenated⟩ :=
    date.exists_text_parts
  rcases hyphenated.cases_of_prefix begins with rfl | unfinished | ⟨shown, inDay, typedParts⟩
  · rfl
  · -- what is unfinished is too short to hold a digit of the day
    have short := unfinished.length_le
    rw [if_neg (by omega), checkDate_eq_ok_none_iff]
    exact .inr (.inl ⟨typed, .inl rfl, unfinished⟩)
  have size : typed.length = 8 + shown.length := by
    have sizeOfYear := hyphenated.yearDigits.1
    have mostOfYear := hyphenated.yearDigits.2.1
    have sizeOfMonth : (padded 2 month).length = 2 := length_padded (by decide) monthSmall
    simp only [typedParts.parts, List.length_append, List.length_cons]
    omega
  have isDay := isDay_iff.mp date.isDay
  rw [checkDate_of_hyphenated typedParts, digitsValue_padded, digitsValue_padded,
    ← yearEq, ← monthEq]
  congr 1
  rcases cases_of_prefix_padded daySmall inDay
    (List.length_pos_iff.mp typedParts.dayDigits.1) with ⟨one, tens⟩ | rfl
  · -- a ten is a day of every month
    have last := twentyEight_le_daysInMonth date.year date.month_pos date.month_le
    by_cases early : date.day < 10
    · have zero : digitsValue shown = 0 := by omega
      rw [if_pos ⟨by omega, early⟩, zero]
      exact checkIso_dayZero allowed isDay.1 start
    · rw [if_neg (fun late => early late.2), checkIso_eq_none_iff, isDay_iff]
      omega
  · have sizeOfDay : (padded 2 day).length = 2 := length_padded (by decide) daySmall
    rw [if_neg (by omega), digitsValue_padded, ← dayEq, checkIso_eq_none_iff]
    exact ⟨date.isDay, allowed⟩

theorem tokenize_typed (begins : typed <+: date.text) (nonempty : typed ≠ []) :
    tokenize ('@' :: typed) = [(⟨.date, 1, typed, 0⟩ : Lexeme).toMarker 0] := by
  obtain ⟨year, month, day, -, hyphenated⟩ := date.exists_text_parts
  obtain ⟨first, rest, textEq, digit⟩ :=
    hyphenated.exists_first fun c member => Date.isDigit_of_mem_text member
  have inside : ∀ c ∈ typed, Lexeme.isDateCharacter c = true := fun c member =>
    isDateCharacter_of_isDigit_or (Date.isDigit_of_mem_text (begins.subset member))
  rw [textEq, List.prefix_cons_iff] at begins
  obtain ⟨run, rfl, -⟩ := begins.resolve_left nonempty
  exact tokenize_date digit fun c member => inside c (List.mem_cons_of_mem first member)

/-- Only the check of the marker reports an error about a note that is a date of which
something is typed. -/
theorem error_mem_validate_typed (begins : typed <+: date.text)
    (reported : diagnostic ∈ validate config today ('@' :: typed))
    (severe : diagnostic.severity = .error) :
    checkDate config today typed 1 = .ok (some diagnostic) := by
  obtain ⟨-, -, finding⟩ := mem_validate_iff.mp reported
  cases finding with
  | marker marker member long found =>
      have nonempty : typed ≠ [] := by
        rintro rfl
        simp at long
      rw [tokenize_typed begins nonempty, List.mem_singleton] at member
      subst member
      exact checkValue_of_diagnose found
  | incomplete member =>
      rw [severity_of_mem_findIncomplete member] at severe
      exact absurd severe (by decide)
  | suggestion member =>
      rw [severity_of_mem_findSuggestions member] at severe
      exact absurd severe (by decide)

/-- While a valid date is typed, there is an error when the first digit of its day is typed and
is a zero, and at no other time. -/
theorem error_mem_validate_typed_iff (settings : Value) (today date : Date) (typed : List Char)
    (diagnostic : Diagnostic)
    (allowed : (MarkerConfig.ofValue settings).firstYear ≤ date.year ∧
      date.year ≤ (MarkerConfig.ofValue settings).lastYear)
    (begins : typed <+: date.text) :
    (diagnostic ∈ validate (.ofValue settings) today ('@' :: typed) ∧
      diagnostic.severity = .error) ↔
    (MarkerConfig.ofValue settings).enabled = true ∧ typed.length = 9 ∧ date.day < 10 ∧
      diagnostic = dayRange typed 1 date.year date.month 0 := by
  have checked := checkDate_of_prefix today allowed begins 1
  constructor
  · rintro ⟨reported, severe⟩
    obtain ⟨⟨-, enabled, -⟩, -, -⟩ := mem_validate_iff.mp reported
    have found := error_mem_validate_typed begins reported severe
    rw [checked, Except.ok.injEq, Option.ite_none_right_eq_some, Option.some.injEq] at found
    exact ⟨enabled, found.1.1, found.1.2, found.2.symm⟩
  · rintro ⟨enabled, size, early, rfl⟩
    have nonempty : typed ≠ [] := List.length_pos_iff.mp (by omega)
    have small : ('@' :: typed).length ≤ (MarkerConfig.ofValue settings).maxNoteLength := by
      have room := MarkerConfig.maxNoteLength_ofValue settings
      rw [List.length_cons]
      omega
    have member : (⟨.date, 1, typed, 0⟩ : Lexeme).toMarker 0 ∈ tokenize ('@' :: typed) := by
      rw [tokenize_typed begins nonempty]
      exact List.mem_singleton_self _
    rw [if_pos ⟨size, early⟩] at checked
    exact ⟨mem_validate_of_marker enabled small member (diagnose_of_checkValue checked), rfl⟩

/-- A leap day with one digit of its day is no error. -/
theorem error_mem_validate_typed_iff_leap_day :
    let date : Date :=
      ⟨2024, 2, 29, by decide, by decide, by decide, by decide, by decide, by decide⟩
    (MarkerConfig.standard.firstYear ≤ date.year ∧
      date.year ≤ MarkerConfig.standard.lastYear) ∧
    "2024-02-2".toList <+: date.text ∧
    ∀ diagnostic ∈ validate .standard newYear "@2024-02-2".toList,
      diagnostic.severity ≠ .error := by
  intro date
  have allowed : MarkerConfig.standard.firstYear ≤ date.year ∧
      date.year ≤ MarkerConfig.standard.lastYear := by decide
  have begins : "2024-02-2".toList <+: date.text := by decide
  refine ⟨allowed, begins, fun diagnostic reported severe => ?_⟩
  obtain ⟨-, -, early, -⟩ := (error_mem_validate_typed_iff (.object []) newYear date
    "2024-02-2".toList diagnostic allowed begins).mp ⟨reported, severe⟩
  exact absurd early (by decide)

/-- The fifth of January is an error while only the zero of its day is typed. -/
theorem exists_error_of_typed_zero :
    let date : Date :=
      ⟨2025, 1, 5, by decide, by decide, by decide, by decide, by decide, by decide⟩
    1000 ≤ date.year ∧ MarkerConfig.standard.firstYear ≤ date.year ∧
      date.year ≤ MarkerConfig.standard.lastYear ∧
    "2025-01-0".toList <+: date.text ∧
    ∃ diagnostic ∈ validate .standard newYear "@2025-01-0".toList,
      diagnostic.severity = .error := by
  refine ⟨by decide, by decide, by decide, by decide, ?_⟩
  decide +kernel

end Validation

end InlineMarkers
