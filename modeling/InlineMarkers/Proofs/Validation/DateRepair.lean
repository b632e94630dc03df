import InlineMarkers.Proofs.Validation.OfferedDates
import Mathlib.Logic.Function.Iterate

/-!
# Repairing a date

A date is repaired by putting the first fix of its diagnostic in its place, again
and again.  The form is mended first, then the year, then the month, and then the
day.  A fix never brings back what an earlier one has mended, unless the year is
too early to be read again; then today takes the place of the date.  So four
repairs are enough.
-/

namespace InlineMarkers.Validation

open Text Calendar DateForm

variable {config : MarkerConfig} {today : Date} {start limit : Nat} {value : List Char}
  {diagnostic : Diagnostic}

/-- A date after the first fix of its diagnostic; a date without a diagnostic stays. -/
def repairDate (config : MarkerConfig) (today : Date) (start : Nat) (value : List Char) :
    List Char :=
  match diagnose noFaults config today .date value start with
  | some diagnostic => (diagnostic.fixes.head?.map (·.replacement)).getD value
  | none => value

/-- So many repairs, or fewer, leave a date without a diagnostic. -/
def SettlesWithin (config : MarkerConfig) (today : Date) (start limit : Nat)
    (value : List Char) : Prop :=
  ∃ steps ≤ limit,
    diagnose noFaults config today .date ((repairDate config today start)^[steps] value) start =
      none

instance : Decidable (SettlesWithin config today start limit value) :=
  inferInstanceAs (Decidable (∃ steps ≤ limit, _))

namespace SettlesWithin

theorem of_none (silent : diagnose noFaults config today .date value start = none) (limit : Nat) :
    SettlesWithin config today start limit value :=
  ⟨0, Nat.zero_le limit, silent⟩

theorem mono {more : Nat} (settles : SettlesWithin config today start limit value)
    (enough : limit ≤ more) : SettlesWithin config today start more value := by
  obtain ⟨steps, few, silent⟩ := settles
  exact ⟨steps, Nat.le_trans few enough, silent⟩

/-- A date settles one repair later than its first fix. -/
theorem of_first (found : diagnose noFaults config today .date value start = some diagnostic)
    (coherent : diagnostic.Coherent)
    (settles : ∀ fix ∈ diagnostic.fixes.head?,
      SettlesWithin config today start limit fix.replacement) :
    SettlesWithin config today start (limit + 1) value := by
  obtain ⟨fix, isFirst, -⟩ := coherent.leads
  obtain ⟨steps, few, silent⟩ := settles fix isFirst
  have repaired : repairDate config today start value = fix.replacement := by
    simp only [repairDate, found, Option.mem_def.mp isFirst, Option.map_some, Option.getD_some]
  refine ⟨steps + 1, Nat.succ_le_succ few, ?_⟩
  rwa [Function.iterate_succ_apply, repaired]

/-- A date settles one repair later than the text that its diagnostic offers first. -/
theorem of_reports {code : DiagnosticCode} {text : List Char} {others : List (List Char)}
    (found : diagnose noFaults config today .date value start = some diagnostic)
    (reports : diagnostic.Reports code start value (text :: others))
    (settles : SettlesWithin config today start limit text) :
    SettlesWithin config today start (limit + 1) value := by
  refine of_first found reports.coherent fun fix isFirst => ?_
  rwa [reports.eq_of_first isFirst]

end SettlesWithin

/-! ## What is written by a fix -/

/-- A date without a form becomes today. -/
theorem settlesWithin_of_unknown (form : ofText value = .unknown) :
    SettlesWithin config today start 1 value := by
  cases found : diagnose noFaults config today .date value start with
  | none => exact .of_none found 1
  | some diagnostic =>
      have accepted : checkValue config today .date "today".toList start = .ok none :=
        checkDate_today config today start
      have settled : SettlesWithin config today start 0 "today".toList :=
        .of_none (diagnose_of_checkValue accepted) 0
      cases checkDate_finding (checkValue_of_diagnose found) with
      | unknown _ _ _ reports => exact .of_reports found reports settled
      | slashed _ _ _ other => simp [form] at other
      | monthFirst _ _ _ other => simp [form] at other
      | monthFirstHyphens _ _ _ other => simp [form] at other
      | iso _ _ _ other => simp [form] at other

/-- A text that is written with hyphens is read as the date that it is, or it becomes today. -/
theorem settlesWithin_isoText {year month day : Nat} (daySmall : day < 100)
    (settles : ofText (isoText year month day) = .iso year month day →
      SettlesWithin config today start (limit + 1) (isoText year month day)) :
    SettlesWithin config today start (limit + 1) (isoText year month day) := by
  rcases ofText_isoText year month daySmall with form | form
  · exact settles form
  · exact (settlesWithin_of_unknown form).mono (Nat.le_add_left 1 limit)

/-- A day of the calendar in an allowed year has no diagnostic, if it can be read. -/
theorem settlesWithin_of_isDay {year month day : Nat} (yearSmall : year < 10000)
    (isDay : IsDay year month day)
    (allowed : config.firstYear ≤ (year : Int) ∧ (year : Int) ≤ config.lastYear) :
    SettlesWithin config today start 1 (isoText year month day) ∧
      (1000 ≤ year → SettlesWithin config today start 0 (isoText year month day)) := by
  have accepted (late : 1000 ≤ year) : SettlesWithin config today start 0
      (isoText year month day) :=
    .of_none ((diagnose_isoText_eq_none_iff yearSmall isDay allowed start).mpr (.inl late)) 0
  obtain ⟨⟨-, monthLast⟩, -, last⟩ := isDay_iff.mp isDay
  have longest := daysInMonth_le_thirtyOne month year
  refine ⟨settlesWithin_isoText (by omega) fun form => ?_, accepted⟩
  have late := (ofText_isoText_eq_iso_iff yearSmall (by omega) (by omega)).mp form
  exact (accepted late).mono (Nat.zero_le 1)

/-! ## Dates in the right form -/

theorem diagnose_of_iso {year month day : Nat} (form : ofText value = .iso year month day) :
    diagnose noFaults config today .date value start =
      checkIso config today value start year month day := by
  have filled : value.isEmpty = false := by
    rw [List.isEmpty_eq_false_iff]
    rintro rfl
    have nothing : ofText [] = .unknown := by decide
    simp [nothing] at form
  apply diagnose_of_checkValue
  simp only [checkValue, checkDate, filled, form, Bool.false_eq_true, if_false]

variable {year month day : Nat}

theorem bounds_of_iso (form : ofText value = .iso year month day) :
    year < 10000 ∧ month < 100 ∧ day < 100 := by
  obtain ⟨text, -, names⟩ := parts_ofText_iff.mp (congrArg parts? form)
  exact names.bounds

/-- In an allowed year and one of the twelve months, only the day is mended, and what is put is
a day of the calendar. -/
theorem settlesWithin_of_monthInside (form : ofText value = .iso year month day)
    (allowed : config.firstYear ≤ (year : Int) ∧ (year : Int) ≤ config.lastYear)
    (monthInside : 1 ≤ month ∧ month ≤ 12)
    (settles : ∀ text, IsDayText text year → SettlesWithin config today start limit text) :
    SettlesWithin config today start (limit + 1) value := by
  cases found : diagnose noFaults config today .date value start with
  | none => exact .of_none found _
  | some diagnostic =>
      have missed := found
      rw [diagnose_of_iso form] at missed
      have settled (ofDay : diagnostic.code = some .dateDayRange ∨
          diagnostic.code = some .dateCalendarInvalid) (coherent : diagnostic.Coherent) :
          SettlesWithin config today start (limit + 1) value :=
        .of_first found coherent fun fix isFirst =>
          settles _ (isDayText_of_checkIso missed ofDay
            (.inr ⟨fix, List.mem_of_mem_head? isFirst, rfl⟩))
      cases checkIso_finding missed with
      | year outside => omega
      | month outside => omega
      | day _ _ reports => exact settled (.inl reports.code_eq) reports.coherent
      | calendar _ _ reports => exact settled (.inr reports.code_eq) reports.coherent

/-- After the fix of a month, one more repair is enough. -/
theorem settlesWithin_isoText_of_monthInside (yearSmall : year < 10000) (daySmall : day < 100)
    (allowed : config.firstYear ≤ (year : Int) ∧ (year : Int) ≤ config.lastYear)
    (monthInside : 1 ≤ month ∧ month ≤ 12) :
    SettlesWithin config today start 1 (isoText year month day) := by
  refine settlesWithin_isoText daySmall fun form => ?_
  have late := (ofText_isoText_eq_iso_iff yearSmall (by omega) daySmall).mp form
  refine settlesWithin_of_monthInside form allowed monthInside ?_
  rintro _ ⟨fixedMonth, fixedDay, rfl, isDay⟩
  exact (settlesWithin_of_isDay yearSmall isDay allowed).2 late

/-- In an allowed year, the month is mended before the day. -/
theorem settlesWithin_of_yearInside (form : ofText value = .iso year month day)
    (allowed : config.firstYear ≤ (year : Int) ∧ (year : Int) ≤ config.lastYear) :
    SettlesWithin config today start 2 value := by
  obtain ⟨yearSmall, -, daySmall⟩ := bounds_of_iso form
  by_cases monthInside : 1 ≤ month ∧ month ≤ 12
  · refine settlesWithin_of_monthInside form allowed monthInside ?_
    rintro _ ⟨fixedMonth, fixedDay, rfl, isDay⟩
    exact (settlesWithin_of_isDay yearSmall isDay allowed).1
  · cases found : diagnose noFaults config today .date value start with
    | none => exact .of_none found 2
    | some diagnostic =>
        have missed := found
        rw [diagnose_of_iso form] at missed
        cases checkIso_finding missed with
        | year outside => omega
        | month _ reports =>
            refine .of_reports found reports ?_
            obtain ⟨fixedMonth, fixedEq, inside⟩ : ∃ fixedMonth : Nat,
                (if 12 < (month : Int) then 12 else 1 : Int) = fixedMonth ∧
                  1 ≤ fixedMonth ∧ fixedMonth ≤ 12 := by
              split
              · exact ⟨12, rfl, by decide⟩
              · exact ⟨1, rfl, by decide⟩
            rw [fixedEq]
            exact settlesWithin_isoText_of_monthInside yearSmall daySmall allowed inside
        | day monthInside => omega
        | calendar monthInside => omega

/-- The year is mended before the month and the day. -/
theorem settlesWithin_of_iso
    (allowed : config.firstYear ≤ today.year ∧ today.year ≤ config.lastYear)
    (form : ofText value = .iso year month day) : SettlesWithin config today start 3 value := by
  obtain ⟨-, -, daySmall⟩ := bounds_of_iso form
  by_cases yearInside : config.firstYear ≤ (year : Int) ∧ (year : Int) ≤ config.lastYear
  · exact (settlesWithin_of_yearInside form yearInside).mono (by decide)
  · cases found : diagnose noFaults config today .date value start with
    | none => exact .of_none found 3
    | some diagnostic =>
        have missed := found
        rw [diagnose_of_iso form, checkIso, if_pos (by omega)] at missed
        obtain rfl := Option.some.inj missed
        obtain ⟨current, currentEq⟩ :=
          Int.eq_ofNat_of_zero_le (Int.le_trans (by decide) today.year_pos)
        refine .of_reports found (Diagnostic.reports_ofValue ..) ?_
        rw [currentEq]
        rw [currentEq] at allowed
        exact settlesWithin_isoText daySmall fun again => settlesWithin_of_yearInside again allowed

/-! ## Dates in any form -/

/-- Every date is without a diagnostic after four repairs at most, if the year of today is
allowed. -/
theorem settlesWithin_four (config : MarkerConfig) (today : Date) (value : List Char)
    (start : Nat) (allowed : config.firstYear ≤ today.year ∧ today.year ≤ config.lastYear) :
    SettlesWithin config today start 4 value := by
  have written {year month day : Nat}
      (named : (ofText value).parts? = some (year, month, day)) :
      SettlesWithin config today start 3 (isoText year month day) :=
    settlesWithin_isoText (hasShortDay_ofText value _ _ _ named)
      fun form => settlesWithin_of_iso allowed form
  cases found : diagnose noFaults config today .date value start with
  | none => exact .of_none found 4
  | some diagnostic =>
      cases checkDate_finding (checkValue_of_diagnose found) with
      | unknown _ form => exact (settlesWithin_of_unknown form).mono (by decide)
      | slashed _ _ _ form reports =>
          exact .of_reports found reports (written (congrArg parts? form))
      | monthFirst _ _ _ form reports =>
          exact .of_reports found reports (written (congrArg parts? form))
      | monthFirstHyphens _ _ _ form reports =>
          exact .of_reports found reports (written (congrArg parts? form))
      | iso _ _ _ form => exact (settlesWithin_of_iso allowed form).mono (by decide)

/-- A date in which nothing is right needs all four repairs. -/
theorem settlesWithin_four_of_month_first :
    (MarkerConfig.standard.firstYear ≤ newYear.year ∧
      newYear.year ≤ MarkerConfig.standard.lastYear) ∧
    SettlesWithin .standard newYear 1 4 "13/32/1850".toList ∧
    ¬SettlesWithin .standard newYear 1 3 "13/32/1850".toList := by
  have allowed : MarkerConfig.standard.firstYear ≤ newYear.year ∧
      newYear.year ≤ MarkerConfig.standard.lastYear := by decide
  exact ⟨allowed, settlesWithin_four .standard newYear _ 1 allowed, by decide +kernel⟩

end InlineMarkers.Validation
