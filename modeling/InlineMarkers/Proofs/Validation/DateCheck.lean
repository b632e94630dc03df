import InlineMarkers.Proofs.Validation.DateForms
import InlineMarkers.Proofs.Validation.Settled
import InlineMarkers.Validation.Date

/-!
# What the check of dates finds

A date is found to have no form, the wrong form, or a year, a month or a day out
of range.  The first fix of a form and of a range is the text of a date, and
that date is not found so again.
-/

namespace InlineMarkers.Validation

open Text Calendar

variable {config : MarkerConfig} {today : Date} {value : List Char} {start : Nat}
  {year month day : Nat} {diagnostic : Diagnostic} {fix : QuickFix}

/-- What a diagnostic for a date in the right form can be. -/
inductive IsoFinding (config : MarkerConfig) (today : Date) (value : List Char) (start : Nat)
    (year month day : Int) (diagnostic : Diagnostic) : Prop where
  | year (outside : year < config.firstYear ∨ config.lastYear < year)
      (reports : diagnostic.Reports .dateYearRange start value [isoText today.year month day])
  | month (outside : month < 1 ∨ 12 < month)
      (reports : diagnostic.Reports .dateMonthRange start value
        [isoText year (if 12 < month then 12 else 1) day])
  | day (monthInside : 1 ≤ month ∧ month ≤ 12) (outside : day < 1 ∨ 31 < day)
      (reports : diagnostic.Reports .dateDayRange start value
        [isoText year month (if 31 < day then daysInMonth month year else 1)])
  | calendar (monthInside : 1 ≤ month ∧ month ≤ 12) (missing : daysInMonth month year < day)
      (reports : diagnostic.Reports .dateCalendarInvalid start value
        ((calendarFixes year month day).map (·.replacement)))

theorem head?_calendarFixes (year month day : Int) :
    ((calendarFixes year month day).map (·.replacement)).head? =
      some (isoText year month (daysInMonth month year)) := by
  simp only [calendarFixes]
  split
  · split <;> rfl
  · rfl

theorem checkIso_finding {year month day : Int}
    (found : checkIso config today value start year month day = some diagnostic) :
    IsoFinding config today value start year month day diagnostic := by
  simp only [checkIso] at found
  split at found
  · rename_i outside
    obtain rfl := Option.some.inj found
    exact .year outside (Diagnostic.reports_ofValue ..)
  split at found
  · rename_i outside
    obtain rfl := Option.some.inj found
    exact .month outside (Diagnostic.reports_ofValue ..)
  rename_i monthInside
  split at found
  · rename_i outside
    obtain rfl := Option.some.inj found
    exact .day (by omega) outside (Diagnostic.reports_ofValue ..)
  split at found
  · simp at found
  · rename_i missing
    obtain rfl := Option.some.inj found
    exact .calendar (by omega) (by omega)
      (Diagnostic.reports_ofValue _ _ _ _ _ _ _ _ (head?_calendarFixes year month day))

/-- What a diagnostic for a date can be. -/
inductive DateFinding (config : MarkerConfig) (today : Date) (value : List Char) (start : Nat)
    (diagnostic : Diagnostic) : Prop where
  | unknown (tomorrow : Date) (form : DateForm.ofText value = .unknown)
      (next : today.tomorrow? = some tomorrow)
      (reports : diagnostic.Reports .dateFormatInvalid start value
        ["today".toList, "tomorrow".toList, today.text, tomorrow.text])
  | slashed (year month day : Nat) (form : DateForm.ofText value = .slashed year month day)
      (reports : diagnostic.Reports .dateFormatSlash start value [isoText year month day])
  | monthFirst (year month day : Nat) (form : DateForm.ofText value = .monthFirst year month day)
      (reports : diagnostic.Reports .dateFormatUs start value [isoText year month day])
  | monthFirstHyphens (year month day : Nat)
      (form : DateForm.ofText value = .monthFirstHyphens year month day)
      (reports : diagnostic.Reports .dateFormatUsHyphen start value [isoText year month day])
  | iso (year month day : Nat) (form : DateForm.ofText value = .iso year month day)
      (finding : IsoFinding config today value start year month day diagnostic)

theorem checkDate_finding (found : checkDate config today value start = .ok (some diagnostic)) :
    DateFinding config today value start diagnostic := by
  simp only [checkDate] at found
  split at found
  · simp at found
  split at found
  · simp at found
  · simp at found
  · rename_i year month day form
    obtain rfl := Option.some.inj (Except.ok.inj found)
    exact .slashed year month day form (Diagnostic.reports_ofValue ..)
  · rename_i year month day form
    obtain rfl := Option.some.inj (Except.ok.inj found)
    exact .monthFirst year month day form (Diagnostic.reports_ofValue ..)
  · rename_i year month day form
    obtain rfl := Option.some.inj (Except.ok.inj found)
    exact .monthFirstHyphens year month day form (Diagnostic.reports_ofValue ..)
  · rename_i year month day form
    exact .iso year month day form (checkIso_finding (Except.ok.inj found))
  · rename_i form
    split at found
    · rename_i tomorrow next
      obtain rfl := Option.some.inj (Except.ok.inj found)
      exact .unknown tomorrow form next (Diagnostic.reports_ofValue ..)
    · simp at found

/-- Only a date without a form is found to have none, and there is a tomorrow. -/
theorem exists_eq_unknownDate (found : checkDate config today value start = .ok (some diagnostic))
    (unknown : diagnostic.code = some .dateFormatInvalid) :
    ∃ tomorrow, today.tomorrow? = some tomorrow ∧
      diagnostic = unknownDate value start today tomorrow := by
  cases checkDate_finding found with
  | unknown tomorrow form next _ =>
      refine ⟨tomorrow, next, ?_⟩
      simp only [checkDate, form, next] at found
      split at found
      · cases found
      · exact (Option.some.inj (Except.ok.inj found)).symm
  | slashed _ _ _ _ reports => simp [reports.code_eq] at unknown
  | monthFirst _ _ _ _ reports => simp [reports.code_eq] at unknown
  | monthFirstHyphens _ _ _ _ reports => simp [reports.code_eq] at unknown
  | iso _ _ _ _ finding =>
      cases finding with
      | year _ reports => simp [reports.code_eq] at unknown
      | month _ reports => simp [reports.code_eq] at unknown
      | day _ _ reports => simp [reports.code_eq] at unknown
      | calendar _ _ reports => simp [reports.code_eq] at unknown

/-- A date without a form is offered today first. -/
theorem reports_of_unknown (found : checkDate config today value start = .ok (some diagnostic))
    (unknown : diagnostic.code = some .dateFormatInvalid) :
    ∃ tomorrow, today.tomorrow? = some tomorrow ∧
      diagnostic.Reports .dateFormatInvalid start value
        ["today".toList, "tomorrow".toList, today.text, tomorrow.text] := by
  obtain ⟨tomorrow, next, rfl⟩ := exists_eq_unknownDate found unknown
  exact ⟨tomorrow, next, Diagnostic.reports_ofValue ..⟩

theorem checkDate_today (config : MarkerConfig) (today : Date) (start : Nat) :
    checkDate config today "today".toList start = .ok none := by
  have form : DateForm.ofText "today".toList = .keyword := by decide
  have filled : "today".toList.isEmpty = false := by decide
  simp only [checkDate, form, filled, Bool.false_eq_true, if_false]

/-- Today with more characters of a name behind it has no form. -/
theorem checkDate_today_append (config : MarkerConfig) {run : List Char} {tomorrow : Date}
    (next : today.tomorrow? = some tomorrow) (nonempty : run ≠ [])
    (inside : ∀ c ∈ run, Lexeme.isNameCharacter c = true) (start : Nat) :
    checkDate config today ("today".toList ++ run) start =
      .ok (some (unknownDate ("today".toList ++ run) start today tomorrow)) := by
  have filled : ("today".toList ++ run).isEmpty = false := by simp
  simp only [checkDate, DateForm.ofText_today_append nonempty inside, filled, next,
    Bool.false_eq_true, if_false]

theorem checkIso_move (config : MarkerConfig) (today : Date) (value : List Char) {near far : Nat}
    {distance : Int} (apart : (far : Int) = near + distance) (year month day : Int) :
    checkIso config today value far year month day =
      (checkIso config today value near year month day).map (Diagnostic.move distance) := by
  simp only [checkIso, yearRange, monthRange, dayRange, calendarInvalid, apart]
  repeat' split
  all_goals simp [Diagnostic.move_ofValue]

theorem checkDate_move (config : MarkerConfig) (today : Date) (value : List Char) {near far : Nat}
    {distance : Int} (apart : (far : Int) = near + distance) :
    checkDate config today value far =
      (checkDate config today value near).map (Option.map (Diagnostic.move distance)) := by
  simp only [checkDate, dateFormat, unknownDate, checkIso_move config today value apart, apart]
  repeat' split
  all_goals simp [Except.map, Diagnostic.move_ofValue]

/-! ## The first fix -/

/-- What a code of the check of dates says of the numbers of a date in the right form. -/
def Faulty (config : MarkerConfig) (year month day : Int) : DiagnosticCode → Prop
  | .dateFormatInvalid => True
  | .dateYearRange => year < config.firstYear ∨ config.lastYear < year
  | .dateMonthRange => month < 1 ∨ 12 < month
  | .dateDayRange => day < 1 ∨ 31 < day
  | .dateCalendarInvalid => daysInMonth month year < day
  | _ => False

theorem IsoFinding.faulty {year month day : Int}
    (finding : IsoFinding config today value start year month day diagnostic) :
    ∃ code, diagnostic.code = some code ∧ Faulty config year month day code := by
  cases finding with
  | year outside reports => exact ⟨_, reports.code_eq, outside⟩
  | month outside reports => exact ⟨_, reports.code_eq, outside⟩
  | day _ outside reports => exact ⟨_, reports.code_eq, outside⟩
  | calendar _ missing reports => exact ⟨_, reports.code_eq, missing⟩

/-- What is found of the text of a date is that it has no form, or a fault of its numbers. -/
theorem faulty_of_isoText (daySmall : day < 100)
    (found : checkDate config today (isoText year month day) start = .ok (some diagnostic)) :
    ∃ code, diagnostic.code = some code ∧ Faulty config year month day code := by
  have forms := DateForm.ofText_isoText year month daySmall
  cases checkDate_finding found with
  | unknown _ _ _ reports => exact ⟨_, reports.code_eq, trivial⟩
  | slashed _ _ _ form => simp [form] at forms
  | monthFirst _ _ _ form => simp [form] at forms
  | monthFirstHyphens _ _ _ form => simp [form] at forms
  | iso _ _ _ form finding =>
      rw [form, DateForm.iso.injEq] at forms
      obtain ⟨rfl, rfl, rfl⟩ := forms.resolve_right (by simp)
      exact finding.faulty

/-- A text on which a code is not reported, wherever it stands. -/
def Clears (config : MarkerConfig) (today : Date) (code : DiagnosticCode) (text : List Char) :
    Prop :=
  ∀ start again, checkDate config today text start = .ok (some again) → again.code ≠ some code

/-- The text of a date whose numbers do not have a fault clears it. -/
theorem clears_of_not_faulty {code : DiagnosticCode} (daySmall : day < 100)
    (sound : ¬Faulty config year month day code) :
    Clears config today code (isoText year month day) := by
  intro start again found same
  obtain ⟨found, foundEq, faulty⟩ := faulty_of_isoText daySmall found
  obtain rfl : found = code := Option.some.inj (foundEq.symm.trans same)
  exact sound faulty

/-- The first fix of a date in the right form is a date that does not have the same fault. -/
theorem IsoFinding.exists_first (daySmall : day < 100) (allowed : config.firstYear ≤ today.year ∧
    today.year ≤ config.lastYear)
    (finding : IsoFinding config today value start year month day diagnostic)
    (isFirst : fix ∈ diagnostic.fixes.head?) :
    ∃ year month day code, fix.replacement = isoText (year : Nat) (month : Nat) (day : Nat) ∧
      diagnostic.code = some code ∧ Clears config today code (isoText year month day) := by
  cases finding with
  | year _ reports =>
      obtain ⟨current, currentEq⟩ :=
        Int.eq_ofNat_of_zero_le (Int.le_trans (by decide) today.year_pos)
      refine ⟨current, month, day, _, ?_, reports.code_eq,
        clears_of_not_faulty daySmall (by simp only [Faulty]; omega)⟩
      rw [reports.eq_of_first isFirst, currentEq]
  | month _ reports =>
      refine ⟨year, if 12 < month then 12 else 1, day, _, ?_, reports.code_eq,
        clears_of_not_faulty daySmall (by simp only [Faulty]; split <;> decide)⟩
      rw [reports.eq_of_first isFirst]
      congr 1
      split <;> split <;> omega
  | day monthInside _ reports =>
      have last := twentyEight_le_daysInMonth year monthInside.1 monthInside.2
      have longest := daysInMonth_le_thirtyOne month year
      obtain ⟨fixedDay, fixedEq⟩ : ∃ fixedDay : Nat,
          (if 31 < (day : Int) then daysInMonth month year else 1) = fixedDay := by
        apply Int.eq_ofNat_of_zero_le
        split <;> omega
      have inside : 1 ≤ fixedDay ∧ fixedDay ≤ 31 := by
        split at fixedEq <;> omega
      refine ⟨year, month, fixedDay, _, ?_, reports.code_eq,
        clears_of_not_faulty (by omega) (by simp only [Faulty]; omega)⟩
      rw [reports.eq_of_first isFirst, fixedEq]
  | calendar monthInside _ reports =>
      have last := twentyEight_le_daysInMonth year monthInside.1 monthInside.2
      have longest := daysInMonth_le_thirtyOne month year
      obtain ⟨lastDay, lastEq⟩ := Int.eq_ofNat_of_zero_le (Int.le_trans (by decide) last)
      refine ⟨year, month, lastDay, _, ?_, reports.code_eq,
        clears_of_not_faulty (by omega) (by simp only [Faulty]; omega)⟩
      have offered := reports.offers_first fix isFirst
      rw [head?_calendarFixes, lastEq] at offered
      exact (Option.some.inj offered).symm

/-- The first fix of a date that names a year, a month and a day is the text of a date on
which the same is not reported. -/
theorem exists_isoText_of_first (allowed : config.firstYear ≤ today.year ∧
    today.year ≤ config.lastYear)
    (found : checkDate config today value start = .ok (some diagnostic))
    (known : diagnostic.code ≠ some .dateFormatInvalid)
    (isFirst : fix ∈ diagnostic.fixes.head?) :
    (∃ parts, (DateForm.ofText value).parts? = some parts) ∧
      ∃ year month day code, fix.replacement = isoText (year : Nat) (month : Nat) (day : Nat) ∧
        diagnostic.code = some code ∧ Clears config today code (isoText year month day) := by
  have small := DateForm.hasShortDay_ofText value
  cases checkDate_finding found with
  | unknown _ _ _ reports => exact absurd reports.code_eq known
  | slashed year month day form reports =>
      have named := congrArg DateForm.parts? form
      exact ⟨⟨_, named⟩, year, month, day, _, reports.eq_of_first isFirst, reports.code_eq,
        clears_of_not_faulty (small _ _ _ named) id⟩
  | monthFirst year month day form reports =>
      have named := congrArg DateForm.parts? form
      exact ⟨⟨_, named⟩, year, month, day, _, reports.eq_of_first isFirst, reports.code_eq,
        clears_of_not_faulty (small _ _ _ named) id⟩
  | monthFirstHyphens year month day form reports =>
      have named := congrArg DateForm.parts? form
      exact ⟨⟨_, named⟩, year, month, day, _, reports.eq_of_first isFirst, reports.code_eq,
        clears_of_not_faulty (small _ _ _ named) id⟩
  | iso year month day form finding =>
      have named := congrArg DateForm.parts? form
      exact ⟨⟨_, named⟩, finding.exists_first (small _ _ _ named) allowed isFirst⟩

end InlineMarkers.Validation
