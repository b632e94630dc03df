import InlineMarkers.Proofs.Calendar.NextDay
import InlineMarkers.Proofs.Validation.OfferedDates

/-!
# What is offered for a date without a form

For a date without a form there are four things to put in its place: today and
tomorrow, as words and as dates.  None of the four is found fault with, as long as
the settings allow the years of both days, and the date of tomorrow is the day that
the calendar has after today.
-/

namespace InlineMarkers

open Text Calendar

namespace Calendar.Date

variable {today next date : Date}

/-- The text of a date is as a date should be written, and has its year, month and day. -/
theorem isCanonical_text (date : Date) : ∃ year month day : Nat,
    (date.year = year ∧ date.month = month ∧ date.day = day) ∧
      IsCanonical date.text year month day := by
  obtain ⟨year, month, day, ⟨isYear, isMonth, isDay, monthSmall, daySmall⟩, hyphenated⟩ :=
    date.exists_text_parts
  exact ⟨year, month, day, ⟨isYear, isMonth, isDay⟩, _, _, _, hyphenated.parts,
    ⟨hyphenated.yearDigits, isDigits_padded (by decide) monthSmall,
      isDigits_padded (by decide) daySmall⟩,
    digitsValue_padded 4 year, digitsValue_padded 2 month, digitsValue_padded 2 day⟩

/-- The text of a date names no other date. -/
theorem eq_of_text_eq {other : Date} (same : date.text = other.text) :
    date.year = other.year ∧ date.month = other.month ∧ date.day = other.day := by
  obtain ⟨year, month, day, ⟨isYear, isMonth, isDay, -⟩, hyphenated⟩ := date.exists_text_parts
  obtain ⟨otherYear, otherMonth, otherDay, ⟨isOtherYear, isOtherMonth, isOtherDay, -⟩, others⟩ :=
    other.exists_text_parts
  have cut := hyphenated.fields_eq
  rw [same, others.fields_eq] at cut
  have numbers := congrArg (List.map digitsValue) cut
  simp only [List.map_cons, List.map_nil, digitsValue_padded, List.cons.injEq] at numbers
  omega

theorem text_ne_of_isNext (isNext : today.IsNext next) : today.text ≠ next.text := by
  intro same
  have equal := eq_of_text_eq same
  have later := isNext.later
  simp only [Precedes] at later
  omega

/-- A word with a letter in it is not the text of a date. -/
theorem ne_text_of_mem {word : List Char} {c : Char} (member : c ∈ word)
    (letter : c.isAlpha = true) : word ≠ date.text := by
  rintro rfl
  rcases isDigit_of_mem_text member with digit | rfl
  · rw [isAlpha_of_isDigit digit] at letter
    exact Bool.noConfusion letter
  · exact absurd letter (by decide)

end Calendar.Date

namespace Validation

open DateForm

variable {config : MarkerConfig} {today next : Date} {value text : List Char}
  {diagnostic : Diagnostic}

/-- What is put in the place of a date without a form, when a day is the next one. -/
def offeredForUnknown (today next : Date) : List (List Char) :=
  ["today".toList, "tomorrow".toList, today.text, next.text]

theorem nodup_offeredForUnknown (isNext : today.IsNext next) :
    (offeredForUnknown today next).Nodup := by
  have letter : Char.isAlpha 't' = true := by decide
  have todayWord (date : Date) : "today".toList ≠ date.text :=
    Date.ne_text_of_mem (by decide : 't' ∈ "today".toList) letter
  have tomorrowWord (date : Date) : "tomorrow".toList ≠ date.text :=
    Date.ne_text_of_mem (by decide : 't' ∈ "tomorrow".toList) letter
  have words : "today".toList ≠ "tomorrow".toList := by decide
  simp only [offeredForUnknown, List.nodup_cons, List.mem_cons, List.not_mem_nil, or_false,
    not_or, List.nodup_nil, and_true, not_false_eq_true]
  exact ⟨⟨words, todayWord today, todayWord next⟩, ⟨tomorrowWord today, tomorrowWord next⟩,
    Date.text_ne_of_isNext isNext⟩

/-- All four are offered, in this order. -/
theorem fixes_unknownDate (isNext : today.IsNext next) (value : List Char) (start : Nat) :
    (unknownDate value start today next).fixes.map (·.replacement) =
      offeredForUnknown today next := by
  rw [unknownDate, Diagnostic.fixes_ofValue]
  · rfl
  · exact nodup_offeredForUnknown isNext

theorem checkDate_text {date : Date}
    (allowed : config.firstYear ≤ date.year ∧ date.year ≤ config.lastYear) (start : Nat) :
    checkDate config today date.text start = .ok none := by
  obtain ⟨year, month, day, ⟨isYear, isMonth, isDay, -⟩, hyphenated⟩ := date.exists_text_parts
  rw [checkDate_of_hyphenated hyphenated, digitsValue_padded, digitsValue_padded,
    digitsValue_padded, ← isYear, ← isMonth, ← isDay,
    checkIso_eq_none_iff.mpr ⟨date.isDay, allowed⟩]

/-- In allowed years nothing is found of what is offered for a date without a form. -/
theorem checkDate_offeredForUnknown
    (allowed : ∀ date, date = today ∨ date = next →
      config.firstYear ≤ date.year ∧ date.year ≤ config.lastYear)
    (offered : text ∈ offeredForUnknown today next) (start : Nat) :
    checkDate config today text start = .ok none := by
  simp only [offeredForUnknown, List.mem_cons, List.not_mem_nil, or_false] at offered
  rcases offered with rfl | rfl | rfl | rfl
  · exact checkDate_today config today start
  · exact checkDate_keyword (by decide) start
  · exact checkDate_text (allowed today (.inl rfl)) start
  · exact checkDate_text (allowed next (.inr rfl)) start

/-- There is a next day on every day but the last one of the calendar: the next of the month, or
the first of the following month.  For every date without a form there are four texts on offer,
today and tomorrow and the dates of both days, and the check accepts them all when the settings
allow both years. -/
theorem unknown_offers_accepted (config : MarkerConfig) (today : Date)
    (notLast : ¬(today.year = 9999 ∧ today.month = 12 ∧ today.day = 31))
    (allowed : ∀ date, date = today ∨ today.IsNext date →
      config.firstYear ≤ date.year ∧ date.year ≤ config.lastYear) :
    ∃ next, (today.IsNext next ∧ today.AdvancesTo next) ∧
      (∃ year month day : Nat, (next.year = year ∧ next.month = month ∧ next.day = day) ∧
        IsCanonical next.text year month day) ∧
      (∀ (value start : Value) (diagnostic : Diagnostic),
        diagnoseValue config today .date value start = some diagnostic →
        diagnostic.code = some .dateFormatInvalid →
        diagnostic.fixes.map (·.replacement) =
          ["today".toList, "tomorrow".toList, today.text, next.text]) ∧
      ∀ text ∈ ["today".toList, "tomorrow".toList, today.text, next.text], ∀ start : Value,
        checkDate config today text start.asOffset = .ok none ∧
          diagnoseValue config today .date (.text (String.ofList text)) start = none := by
  obtain ⟨next, found⟩ := Option.isSome_iff_exists.mp (today.tomorrow?_isSome notLast)
  have advances := Date.advancesTo_of_tomorrow? found
  have isNext := advances.isNext
  refine ⟨next, ⟨isNext, advances⟩, next.isCanonical_text, ?_, fun text offered start => ?_⟩
  · intro value start diagnostic isDiagnostic unknown
    obtain ⟨tomorrow, isTomorrow, rfl⟩ :=
      exists_eq_unknownDate (checkValue_of_diagnose isDiagnostic) unknown
    obtain rfl : next = tomorrow := Option.some.inj (found.symm.trans isTomorrow)
    exact fixes_unknownDate isNext _ _
  · have allowedBoth : ∀ date, date = today ∨ date = next →
        config.firstYear ≤ date.year ∧ date.year ≤ config.lastYear := by
      rintro date (rfl | rfl)
      · exact allowed date (.inl rfl)
      · exact allowed date (.inr isNext)
    have accepted := checkDate_offeredForUnknown allowedBoth offered start.asOffset
    refine ⟨accepted, ?_⟩
    rw [diagnoseValue, Value.asText, String.toList_ofList]
    exact diagnose_of_checkValue accepted

/-- On the last of February of 2100, which is no leap year, the first of March is offered. -/
theorem unknown_offers_accepted_century :
    let today : Date :=
      ⟨2100, 2, 28, by decide, by decide, by decide, by decide, by decide, by decide⟩
    (¬(today.year = 9999 ∧ today.month = 12 ∧ today.day = 31)) ∧
    (∀ date, date = today ∨ today.IsNext date →
      MarkerConfig.standard.firstYear ≤ date.year ∧
        date.year ≤ MarkerConfig.standard.lastYear) ∧
    ∃ diagnostic,
      diagnoseValue .standard today .date (.text "someday") .null = some diagnostic ∧
      diagnostic.fixes.map (·.replacement) = ["today".toList, "tomorrow".toList,
        "2100-02-28".toList, "2100-03-01".toList] ∧
      diagnoseValue .standard today .date (.text "2100-03-01") .null = none := by
  intro today
  have notLast : ¬(today.year = 9999 ∧ today.month = 12 ∧ today.day = 31) := by decide
  have firstOfMarch : today.tomorrow? = some
      ⟨2100, 3, 1, by decide, by decide, by decide, by decide, by decide, by decide⟩ := by
    decide
  have allowed : ∀ date, date = today ∨ today.IsNext date →
      MarkerConfig.standard.firstYear ≤ date.year ∧
        date.year ≤ MarkerConfig.standard.lastYear := by
    rintro date (rfl | isNext)
    · decide
    · obtain rfl :=
        Option.some.inj (firstOfMarch.symm.trans (Date.tomorrow?_eq_some_iff.mpr isNext))
      decide
  obtain ⟨next, ⟨isNext, -⟩, -, offers, accepted⟩ :=
    unknown_offers_accepted .standard today notLast allowed
  obtain rfl := Option.some.inj (firstOfMarch.symm.trans (Date.tomorrow?_eq_some_iff.mpr isNext))
  refine ⟨notLast, allowed, _, rfl, ?_, ?_⟩
  · rw [offers (.text "someday") .null _ rfl rfl]
    decide
  · exact (accepted "2100-03-01".toList (by decide) .null).2

end Validation

end InlineMarkers
