import InlineMarkers.Proofs.Validation.CoherentFixes
import InlineMarkers.Proofs.Validation.NamedDates
import InlineMarkers.Validation.AnyValue

/-!
# The dates that fixes write

A fix of a date that is written in another form writes the same year, month and
day with hyphens, and a fix of a day that its month does not have writes a day of
the calendar.  Months and days are written in two digits, but a year is written
without leading zeros.  So what is written is a date again, and is accepted,
exactly when its year has four digits without them.
-/

namespace InlineMarkers

open Text Calendar

namespace Calendar

variable {year month day : Nat}

/-- A year fills four digits when it is not too early. -/
theorem isDigits_toDigits_iff (yearSmall : year < 10000) :
    IsDigits 4 4 (Nat.toDigits 10 year) ↔ 1000 ≤ year := by
  have short : (Nat.toDigits 10 year).length ≤ 3 ↔ year < 1000 :=
    Nat.length_toDigits_le_iff (by decide) (by decide)
  have fits : (Nat.toDigits 10 year).length ≤ 4 ↔ year < 10000 :=
    Nat.length_toDigits_le_iff (by decide) (by decide)
  have digits : ∀ c ∈ Nat.toDigits 10 year, isDecimalDigit c = true :=
    fun c member => isDecimalDigit_of_isDigit (isDigit_of_mem_toDigits member)
  rw [IsDigits]
  constructor
  · rintro ⟨filled, -, -⟩
    omega
  · intro late
    exact ⟨by omega, by omega, digits⟩

/-- A date as it should be written: four digits of the year, two of the month and two of the
day, with hyphens between them. -/
def IsCanonical (text : List Char) (year month day : Nat) : Prop :=
  ∃ years months days, text = years ++ '-' :: (months ++ '-' :: days) ∧
    (IsDigits 4 4 years ∧ IsDigits 2 2 months ∧ IsDigits 2 2 days) ∧
    digitsValue years = year ∧ digitsValue months = month ∧ digitsValue days = day

end Calendar

namespace DateForm

variable {year month day : Nat}

/-! ## Reading a date that was written -/

theorem isHyphenated_isoText (late : 1000 ≤ year) (yearSmall : year < 10000)
    (monthSmall : month < 100) (daySmall : day < 100) :
    IsHyphenated (isoText year month day) (Nat.toDigits 10 year) (padded 2 month)
      (padded 2 day) where
  parts := isoText_natCast year month day
  yearDigits := (isDigits_toDigits_iff yearSmall).mpr late
  monthDigits := isDigits_padded_two monthSmall
  dayDigits := isDigits_padded_two daySmall

/-- A date with an early year is not read, whatever its other numbers are. -/
theorem ofText_isoText_of_early (early : year < 1000) (daySmall : day < 100) :
    ofText (isoText year month day) = unknown := by
  refine (ofText_isoText year month daySmall).resolve_left fun form => ?_
  -- a date that is read has four digits in its first field
  rw [ofText, isBeginning_isoText, isDateKeyword_isoText] at form
  obtain ⟨years, months, days, hyphenated, -⟩ := isHyphenated_of_numeric form
  have cut := hyphenated.fields_eq
  rw [withoutFinalBreak_isoText, fields_isoText, List.cons.injEq] at cut
  have four := hyphenated.yearDigits
  rw [← cut.1, isDigits_toDigits_iff (by omega)] at four
  omega

theorem ofText_isoText_eq_iso_iff (yearSmall : year < 10000) (monthSmall : month < 100)
    (daySmall : day < 100) :
    ofText (isoText year month day) = iso year month day ↔ 1000 ≤ year := by
  constructor
  · intro form
    by_contra early
    rw [ofText_isoText_of_early (by omega) daySmall] at form
    exact absurd form (by simp)
  · intro late
    rw [(isHyphenated_isoText late yearSmall monthSmall daySmall).ofText_eq, digitsValue_toDigits,
      digitsValue_padded, digitsValue_padded]

theorem isCanonical_isoText_iff (yearSmall : year < 10000) (monthSmall : month < 100)
    (daySmall : day < 100) :
    IsCanonical (isoText year month day) year month day ↔ 1000 ≤ year := by
  constructor
  · rintro ⟨years, months, days, parts, ⟨yearDigits, monthDigits, dayDigits⟩, -⟩
    have cut : fields '-' (isoText year month day) = [years, months, days] := by
      rw [parts, fields_hyphen yearDigits, fields_hyphen monthDigits, fields_digits dayDigits]
    rw [fields_isoText, List.cons.injEq] at cut
    rwa [← cut.1, isDigits_toDigits_iff yearSmall] at yearDigits
  · exact fun late => ⟨Nat.toDigits 10 year, padded 2 month, padded 2 day,
      isoText_natCast year month day,
      ⟨(isDigits_toDigits_iff yearSmall).mpr late, isDigits_padded (by decide) monthSmall,
        isDigits_padded (by decide) daySmall⟩,
      digitsValue_toDigits year, digitsValue_padded 2 month, digitsValue_padded 2 day⟩

end DateForm

namespace Validation

open DateForm

variable {config : MarkerConfig} {today : Date} {value replacement : List Char} {start : Nat}
  {diagnostic : Diagnostic} {code : DiagnosticCode}

/-! ## Dates in another form -/

/-- The only text that is offered for a date in another form is the one of the same numbers. -/
theorem exists_parts_of_checkDate
    (found : checkDate config today value start = .ok (some diagnostic))
    (reported : diagnostic.code = some code)
    (ofForm : code ∈ [.dateFormatSlash, .dateFormatUs, .dateFormatUsHyphen]) :
    ∃ year month day, (ofText value).parts? = some (year, month, day) ∧
      ∀ text, diagnostic.Offers text → text = isoText year month day := by
  cases checkDate_finding found with
  | unknown _ _ _ reports =>
      obtain rfl := Option.some.inj (reported.symm.trans reports.code_eq)
      simp at ofForm
  | slashed year month day form reports =>
      exact ⟨year, month, day, congrArg parts? form,
        fun _ offered => List.mem_singleton.mp (reports.mem_of_offers offered)⟩
  | monthFirst year month day form reports =>
      exact ⟨year, month, day, congrArg parts? form,
        fun _ offered => List.mem_singleton.mp (reports.mem_of_offers offered)⟩
  | monthFirstHyphens year month day form reports =>
      exact ⟨year, month, day, congrArg parts? form,
        fun _ offered => List.mem_singleton.mp (reports.mem_of_offers offered)⟩
  | iso year month day form finding =>
      obtain ⟨found, foundEq, faulty⟩ := finding.faulty
      obtain rfl := Option.some.inj (reported.symm.trans foundEq)
      simp only [List.mem_cons, List.not_mem_nil, or_false] at ofForm
      rcases ofForm with rfl | rfl | rfl <;> exact faulty.elim

/-- The numbers of a typed date, written with hyphens, are read again exactly when the year is
not too early. -/
theorem exists_named_isoText {year month day : Nat}
    (named : (ofText value).parts? = some (year, month, day)) :
    ∃ text, UpToBreak value text ∧ Names text year month day ∧
      (IsCanonical (isoText year month day) year month day ↔ 1000 ≤ year) ∧
      (ofText (isoText year month day) = .iso year month day ↔ 1000 ≤ year) := by
  obtain ⟨text, upTo, names⟩ := parts_ofText_iff.mp named
  obtain ⟨yearSmall, monthSmall, daySmall⟩ := names.bounds
  exact ⟨text, upTo, names,
    isCanonical_isoText_iff yearSmall monthSmall daySmall,
    ofText_isoText_eq_iso_iff yearSmall monthSmall daySmall⟩

/-! ## Days of the calendar -/

/-- A day of an allowed year, as it is written, is accepted unless its year is too early to be
read; then it is a date without a form, for which the check fails on the last day of the
calendar. -/
theorem diagnose_isoText_eq_none_iff {year month day : Nat} (yearSmall : year < 10000)
    (isDay : IsDay year month day)
    (allowed : config.firstYear ≤ (year : Int) ∧ (year : Int) ≤ config.lastYear) (start : Nat) :
    diagnose noFaults config today .date (isoText year month day) start = none ↔
      1000 ≤ year ∨ today.tomorrow? = none := by
  obtain ⟨inYear, first, last⟩ := isDay_iff.mp isDay
  have longest := daysInMonth_le_thirtyOne month year
  by_cases late : 1000 ≤ year
  · have hyphenated : IsHyphenated (isoText year month day) (Nat.toDigits 10 year)
        (padded 2 month) (padded 2 day) :=
      isHyphenated_isoText late yearSmall (by omega) (by omega)
    have checked : checkValue config today .date (isoText year month day) start = .ok none := by
      rw [checkValue, checkDate_of_hyphenated hyphenated, digitsValue_toDigits, digitsValue_padded,
        digitsValue_padded, checkIso_eq_none_iff.mpr ⟨isDay, allowed⟩]
    exact iff_of_true (diagnose_of_checkValue checked) (.inl late)
  · have form : ofText (isoText year month day) = .unknown :=
      ofText_isoText_of_early (by omega) (by omega)
    have filled : (isoText year month day).isEmpty = false := by
      obtain ⟨first, rest, written, -⟩ := exists_isoText_eq_cons year month day
      rw [written, List.isEmpty_cons]
    cases next : today.tomorrow? with
    | none => simp [diagnose, Faults.run, noFaults, checkValue, checkDate, filled, form, next]
    | some tomorrow =>
        simp [diagnose, Faults.run, noFaults, checkValue, checkDate, filled, form, next, late]

/-- Only a date in the right form is found to have a day that it should not have. -/
theorem exists_iso_of_checkDate
    (found : checkDate config today value start = .ok (some diagnostic))
    (ofDay : diagnostic.code = some .dateDayRange ∨ diagnostic.code = some .dateCalendarInvalid) :
    ∃ year month day : Nat, ofText value = .iso year month day ∧
      checkIso config today value start year month day = some diagnostic := by
  cases checkDate_finding found with
  | unknown _ _ _ reports => simp [reports.code_eq] at ofDay
  | slashed _ _ _ _ reports => simp [reports.code_eq] at ofDay
  | monthFirst _ _ _ _ reports => simp [reports.code_eq] at ofDay
  | monthFirstHyphens _ _ _ _ reports => simp [reports.code_eq] at ofDay
  | iso year month day form =>
      refine ⟨year, month, day, form, ?_⟩
      simp only [checkDate, form] at found
      split at found
      · simp at found
      · exact Except.ok.inj found

theorem allowed_of_checkIso {year month day : Int}
    (found : checkIso config today value start year month day = some diagnostic)
    (otherCode : diagnostic.code ≠ some .dateYearRange) :
    config.firstYear ≤ year ∧ year ≤ config.lastYear := by
  simp only [checkIso] at found
  split at found
  · obtain rfl := Option.some.inj found
    exact absurd rfl otherCode
  · omega

/-- A day is only found to be missing in its month when other months have it. -/
theorem le_thirtyOne_of_checkIso {year month day : Int}
    (found : checkIso config today value start year month day = some diagnostic)
    (isMissing : diagnostic.code = some .dateCalendarInvalid) : day ≤ 31 := by
  simp only [checkIso] at found
  split at found
  · obtain rfl := Option.some.inj found
    exact absurd isMissing (by simp [yearRange, Diagnostic.ofValue])
  split at found
  · obtain rfl := Option.some.inj found
    exact absurd isMissing (by simp [monthRange, Diagnostic.ofValue])
  split at found
  · obtain rfl := Option.some.inj found
    exact absurd isMissing (by simp [dayRange, Diagnostic.ofValue])
  · omega

/-- The text of a day of the calendar in some year. -/
def IsDayText (text : List Char) (year : Nat) : Prop :=
  ∃ month day : Nat, text = isoText year month day ∧ IsDay year month day

theorem isDayText_of_isDay {year : Nat} {month day : Int} (isDay : IsDay year month day) :
    IsDayText (isoText year month day) year := by
  obtain ⟨inYear, first, -⟩ := isDay_iff.mp isDay
  lift month to Nat using by omega
  lift day to Nat using by omega
  exact ⟨month, day, rfl, isDay⟩

/-- What is offered for a day that its month does not have is a day of the calendar in the same
year: only February and the months of thirty days miss a day that other months have, and a month
of thirty days is followed by one of thirty-one. -/
theorem isDayText_of_mem_calendarFixes {year : Nat} {month day : Int}
    (inYear : 1 ≤ month ∧ month ≤ 12) (missing : daysInMonth month year < day) (inside : day ≤ 31)
    (offered : replacement ∈ (calendarFixes year month day).map (·.replacement)) :
    IsDayText replacement year := by
  have enough := twentyEight_le_daysInMonth year inYear.1 inYear.2
  have clamped : IsDay year month (daysInMonth month year) :=
    isDay_iff.mpr ⟨inYear, by omega, Int.le_refl _⟩
  rcases month_cases inYear with long | short | rfl
  · rw [daysInMonth_of_long long] at missing
    omega
  · rcases mem_calendarFixes offered with rfl | rfl
    · exact isDayText_of_isDay clamped
    · simp only [List.mem_cons, List.not_mem_nil, or_false] at short
      have following : followingMonth month year = (month + 1, (year : Int)) :=
        if_neg (by omega)
      rw [following]
      refine isDayText_of_isDay (.ofLongMonth ?_ (by omega))
      simp only [List.mem_cons, List.not_mem_nil, or_false]
      omega
  · simp only [calendarFixes, if_true] at offered
    split at offered <;>
    · rw [List.mem_singleton.mp offered]
      exact isDayText_of_isDay clamped

/-- What is offered for a day out of range, or for one that its month does not have, is a day of
the calendar in the same year. -/
theorem isDayText_of_checkIso {year : Nat} {month day : Int}
    (found : checkIso config today value start year month day = some diagnostic)
    (ofDay : diagnostic.code = some .dateDayRange ∨ diagnostic.code = some .dateCalendarInvalid)
    (offered : diagnostic.Offers replacement) : IsDayText replacement year := by
  cases checkIso_finding found with
  | year _ reports => simp [reports.code_eq] at ofDay
  | month _ reports => simp [reports.code_eq] at ofDay
  | day monthInside _ reports =>
      have enough := twentyEight_le_daysInMonth year monthInside.1 monthInside.2
      rw [List.mem_singleton.mp (reports.mem_of_offers offered)]
      refine isDayText_of_isDay (isDay_iff.mpr ⟨monthInside, ?_⟩)
      split <;> omega
  | calendar monthInside missing reports =>
      exact isDayText_of_mem_calendarFixes monthInside missing
        (le_thirtyOne_of_checkIso found reports.code_eq) (reports.mem_of_offers offered)

/-! ## What is offered for a value of unknown shape -/

/-- What is offered for a date in another form is the date that the value names, written as it
should be, and what is offered for a missing day is accepted, both exactly when the year that the
value names has four digits without leading zeros.  What is not read as a date is still accepted
on the last day of the calendar, when the check of such a text fails. -/
theorem offered_date_iff (config : MarkerConfig) (today : Date) (value start : Value)
    {diagnostic : Diagnostic} {code : DiagnosticCode} {replacement : List Char}
    (found : diagnoseValue config today .date value start = some diagnostic)
    (reported : diagnostic.code = some code) (offered : diagnostic.Offers replacement) :
    (code ∈ [.dateFormatSlash, .dateFormatUs, .dateFormatUsHyphen] →
      ∃ text year month day, UpToBreak value.asText text ∧ Names text year month day ∧
        (IsCanonical replacement year month day ↔ 1000 ≤ year) ∧
        (ofText replacement = .iso year month day ↔ 1000 ≤ year)) ∧
    (code ∈ [.dateDayRange, .dateCalendarInvalid] →
      ∃ text year month day, UpToBreak value.asText text ∧ Names text year month day ∧
        ∀ place, diagnoseValue config today .date (.text (String.ofList replacement)) place = none ↔
          1000 ≤ year ∨ today.tomorrow? = none) := by
  have checked : checkDate config today value.asText start.asOffset = .ok (some diagnostic) :=
    checkValue_of_diagnose found
  refine ⟨fun ofForm => ?_, fun ofDay => ?_⟩
  · obtain ⟨year, month, day, named, offers⟩ := exists_parts_of_checkDate checked reported ofForm
    obtain ⟨text, reads⟩ := exists_named_isoText named
    rw [← offers replacement offered] at reads
    exact ⟨text, year, month, day, reads⟩
  · have ofDay : diagnostic.code = some .dateDayRange ∨
        diagnostic.code = some .dateCalendarInvalid := by
      simpa [reported] using ofDay
    obtain ⟨year, month, day, form, missed⟩ := exists_iso_of_checkDate checked ofDay
    obtain ⟨text, upTo, names⟩ := parts_ofText_iff.mp (congrArg parts? form)
    have allowed := allowed_of_checkIso missed (by rcases ofDay with same | same <;> simp [same])
    obtain ⟨fixedMonth, fixedDay, rfl, isDay⟩ := isDayText_of_checkIso missed ofDay offered
    refine ⟨text, year, month, day, upTo, names, fun place => ?_⟩
    rw [diagnoseValue, Value.asText, String.toList_ofList]
    exact diagnose_isoText_eq_none_iff names.bounds.1 isDay allowed _

/-- A date with slashes in digits of another script, and the thirty-first of April with a line
break behind it, for which the last day of April and the same day of May are offered. -/
theorem offered_date_iff_missing_day :
    (∃ diagnostic,
      diagnoseValue .standard newYear .date (.text "٢٠٢٤/4/5") .null = some diagnostic ∧
      diagnostic.code = some .dateFormatSlash ∧ diagnostic.Offers "2024-04-05".toList ∧
      IsCanonical "2024-04-05".toList 2024 4 5) ∧
    ∃ diagnostic,
      diagnoseValue .standard newYear .date (.text "2024-04-31\n") (.int 1) = some diagnostic ∧
      diagnostic.code = some .dateCalendarInvalid ∧ diagnostic.Offers "2024-05-31".toList ∧
      diagnoseValue .standard newYear .date (.text "2024-05-31") (.int 1) = none := by
  constructor
  · obtain ⟨diagnostic, found, code, suggested⟩ : ∃ diagnostic,
        diagnoseValue .standard newYear .date (.text "٢٠٢٤/4/5") .null = some diagnostic ∧
        diagnostic.code = some .dateFormatSlash ∧
        diagnostic.suggestion = some "2024-04-05".toList := ⟨_, rfl, rfl, by decide⟩
    obtain ⟨text, year, month, day, upTo, names, canonical, -⟩ :=
      (offered_date_iff .standard newYear _ _ found code (.inl suggested)).1 (by simp)
    have named := parts_of_names upTo names
    have numbers : (ofText (Value.asText (.text "٢٠٢٤/4/5"))).parts? = some (2024, 4, 5) := by
      decide
    simp only [numbers, Option.some.injEq, Prod.mk.injEq] at named
    obtain ⟨rfl, rfl, rfl⟩ := named
    exact ⟨diagnostic, found, code, .inl suggested, canonical.mpr (by decide)⟩
  · obtain ⟨diagnostic, found, code, nextMonth⟩ : ∃ diagnostic,
        diagnoseValue .standard newYear .date (.text "2024-04-31\n") (.int 1) = some diagnostic ∧
        diagnostic.code = some .dateCalendarInvalid ∧
        ∃ fix ∈ diagnostic.fixes, fix.replacement = "2024-05-31".toList :=
      ⟨_, rfl, rfl, by decide⟩
    obtain ⟨text, year, month, day, upTo, names, accepted⟩ :=
      (offered_date_iff .standard newYear _ _ found code (.inr nextMonth)).2 (by simp)
    have named := parts_of_names upTo names
    have numbers : (ofText (Value.asText (.text "2024-04-31\n"))).parts? = some (2024, 4, 31) := by
      decide
    simp only [numbers, Option.some.injEq, Prod.mk.injEq] at named
    obtain ⟨rfl, rfl, rfl⟩ := named
    exact ⟨diagnostic, found, code, .inr nextMonth, (accepted (.int 1)).mpr (.inl (by decide))⟩

/-- A date with slashes and an early year is not brought into a form that can be read, and
neither is a missing day in such a year, when the settings allow it. -/
theorem exists_unreadable_offer :
    (∃ diagnostic,
      diagnoseValue .standard newYear .date (.text "0999/01/15") (.int 1) = some diagnostic ∧
      diagnostic.code = some .dateFormatSlash ∧ diagnostic.Offers "999-01-15".toList ∧
      ofText "999-01-15".toList = .unknown ∧
      ¬IsCanonical "999-01-15".toList 999 1 15) ∧
    ∃ diagnostic again,
      diagnoseValue { MarkerConfig.standard with firstYear := 1 } newYear .date
        (.text "0500-01-32") (.int 1) = some diagnostic ∧
      diagnostic.code = some .dateDayRange ∧ diagnostic.Offers "500-01-31".toList ∧
      diagnoseValue { MarkerConfig.standard with firstYear := 1 } newYear .date
        (.text "500-01-31") (.int 1) = some again ∧
      again.code = some .dateFormatInvalid := by
  refine ⟨⟨_, rfl, rfl, .inl (by decide), by decide, ?_⟩,
    ⟨_, _, rfl, rfl, .inl (by decide), rfl, rfl⟩⟩
  have unread : IsCanonical (isoText (999 : Nat) (1 : Nat) (15 : Nat)) 999 1 15 ↔ 1000 ≤ 999 :=
    isCanonical_isoText_iff (by decide) (by decide) (by decide)
  have written : isoText (999 : Nat) (1 : Nat) (15 : Nat) = "999-01-15".toList := by decide
  rw [written] at unread
  exact fun canonical => absurd (unread.mp canonical) (by decide)

end Validation

end InlineMarkers
