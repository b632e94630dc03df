import InlineMarkers.Proofs.Completion.OfferedValues

/-!
# The days that are offered for a month

Completion lists the days of the month that is typed, and the check of dates knows
the days of the calendar by itself.  The two agree: what is listed is accepted, and
every day of the month that is accepted is listed, once and in its place.  The list
writes its days in ASCII digits, while the check reads the digits of every script.
-/

namespace InlineMarkers

open Text Calendar Validation

namespace Candidate

variable {config : MarkerConfig} {today : Date} {query digits : List Char} {item : Candidate}
  {date : PartialDate} {start day : Nat}

theorem mem_days_iff (valid : date.isValid = true) :
    item ∈ days date ↔ ∃ day : Nat, 1 ≤ day ∧
      (day : Int) ≤ daysInMonth date.monthNumber date.yearNumber ∧ item = ofDay date day := by
  refine ⟨fun member => (exists_day_of_mem_days member).2, ?_⟩
  rintro ⟨day, first, last, rfl⟩
  rw [days, List.mem_map]
  refine ⟨day - 1, ?_, by rw [Nat.sub_add_cancel first]⟩
  rw [List.mem_range, PartialDate.days, if_pos valid]
  omega

theorem eq_of_withDay_eq {day other : List Char} (same : date.withDay day = date.withDay other) :
    day = other := by
  simpa [PartialDate.withDay] using same

/-- The check accepts the days of the calendar in the month that is typed. -/
theorem diagnose_withDay_eq_none_iff (read : PartialDate.ofText? query = some date)
    (allowed : config.firstYear ≤ date.yearNumber ∧ date.yearNumber ≤ config.lastYear)
    (dayDigits : IsDigits 1 2 digits) :
    diagnose noFaults config today .date (date.withDay digits) start = none ↔
      IsDay date.yearNumber date.monthNumber (digitsValue digits) := by
  obtain ⟨month, hyphenated, monthEq⟩ := PartialDate.isHyphenated_withDay read dayDigits
  have checked : checkValue config today .date (date.withDay digits) start = .ok _ :=
    checkDate_of_hyphenated hyphenated start
  rw [diagnose_of_checkValue checked, checkIso_eq_none_iff, monthEq]
  exact and_iff_left allowed

/-- A day of the calendar is listed as its number in two digits. -/
theorem exists_value_eq_withDay_iff (valid : date.isValid = true) :
    (∃ item ∈ days date, item.value.toList = date.withDay digits) ↔
      ∃ day : Nat, IsDay date.yearNumber date.monthNumber day ∧ digits = padded 2 day := by
  have inYear := PartialDate.month_inside valid
  constructor
  · rintro ⟨item, member, written⟩
    obtain ⟨day, first, last, rfl⟩ := (mem_days_iff valid).mp member
    rw [value_ofDay] at written
    exact ⟨day, isDay_iff.mpr ⟨inYear, by omega, last⟩, (eq_of_withDay_eq written).symm⟩
  · rintro ⟨day, isDay, rfl⟩
    obtain ⟨-, first, last⟩ := isDay_iff.mp isDay
    exact ⟨_, (mem_days_iff valid).mpr ⟨day, by omega, last, rfl⟩, value_ofDay date day⟩

theorem padded_digitsValue (two : IsDigits 2 2 digits)
    (ascii : ∀ c ∈ digits, c.isDigit = true) : padded 2 (digitsValue digits) = digits := by
  have size : digits.length = 2 := Nat.le_antisymm two.2.1 two.1
  have small : digitsValue digits < 10 ^ 2 := size ▸ digitsValue_lt digits
  refine eq_of_digitsValue_eq (fun _ => isDigit_of_mem_padded) ascii ?_ (digitsValue_padded 2 _)
  rw [length_padded (by decide) small, size]

/-- The days of a month stand in the order of their numbers. -/
theorem pairwise_days (date : PartialDate) :
    (days date).Pairwise fun earlier later =>
      ∃ first second, (IsDigits 2 2 first ∧ earlier.value.toList = date.withDay first) ∧
        (IsDigits 2 2 second ∧ later.value.toList = date.withDay second) ∧
        digitsValue first < digitsValue second := by
  have few : date.days ≤ 31 := by
    rw [PartialDate.days]
    split
    · exact daysInMonth_le_thirtyOne ..
    · decide
  have twoDigits (index : Nat) (inside : index ∈ List.range date.days.toNat) :
      IsDigits 2 2 (padded 2 ((index + 1 : Nat) : Int)) := by
    rw [List.mem_range] at inside
    exact isDigits_padded (by decide) (by omega)
  rw [days, List.pairwise_map]
  refine List.pairwise_lt_range.imp_of_mem fun {index next} inside nextInside ordered => ?_
  refine ⟨_, _, ⟨twoDigits index inside, value_ofDay ..⟩,
    ⟨twoDigits next nextInside, value_ofDay ..⟩, ?_⟩
  rw [digitsValue_padded, digitsValue_padded]
  omega

/-- A text of two digits is a day that is listed exactly when its digits are ASCII digits and
the check accepts the date; a date in other digits is accepted exactly when the same number in
ASCII digits is listed.  The days are listed once each and in increasing order. -/
theorem days_are_accepted (config : MarkerConfig) (today : Date) (query : List Char)
    {date : PartialDate} (read : PartialDate.ofText? query = some date)
    (valid : date.isValid = true)
    (allowed : config.firstYear ≤ date.yearNumber ∧ date.yearNumber ≤ config.lastYear) :
    (∀ digits, IsDigits 2 2 digits → ∀ start,
      ((∃ item ∈ days date, item.value.toList = date.withDay digits) ↔
        (∀ c ∈ digits, c.isDigit = true) ∧
          diagnose noFaults config today .date (date.withDay digits) start = none) ∧
      (diagnose noFaults config today .date (date.withDay digits) start = none ↔
        ∃ item ∈ days date,
          item.value.toList = date.withDay (padded 2 (digitsValue digits)))) ∧
    ((days date).map (·.value)).Nodup ∧
    (days date).Pairwise fun earlier later =>
      ∃ first second, (IsDigits 2 2 first ∧ earlier.value.toList = date.withDay first) ∧
        (IsDigits 2 2 second ∧ later.value.toList = date.withDay second) ∧
        digitsValue first < digitsValue second := by
  refine ⟨fun digits two start => ?_, ?_, pairwise_days date⟩
  · rw [diagnose_withDay_eq_none_iff read allowed (two.widen (by decide) (by decide)),
      exists_value_eq_withDay_iff valid, exists_value_eq_withDay_iff valid]
    refine ⟨⟨?_, ?_⟩, ?_, ?_⟩
    · rintro ⟨day, isDay, rfl⟩
      rw [digitsValue_padded]
      exact ⟨fun _ => isDigit_of_mem_padded, isDay⟩
    · rintro ⟨ascii, isDay⟩
      exact ⟨digitsValue digits, isDay, (padded_digitsValue two ascii).symm⟩
    · exact fun isDay => ⟨digitsValue digits, isDay, rfl⟩
    · rintro ⟨day, isDay, same⟩
      have numbers := congrArg digitsValue same
      rw [digitsValue_padded, digitsValue_padded] at numbers
      rwa [numbers]
  · rw [List.Nodup, List.pairwise_map]
    refine (pairwise_days date).imp ?_
    rintro earlier later ⟨first, second, ⟨-, written⟩, ⟨-, writtenLater⟩, ordered⟩ same
    rw [same, writtenLater] at written
    rw [eq_of_withDay_eq written] at ordered
    exact Nat.lt_irrefl _ ordered

/-- The leap day of a year in the digits of another script is listed and accepted, and the day
behind it is neither. -/
theorem days_are_accepted_leap_month :
    ∃ date, PartialDate.ofText? "٢٠٢٤-2-".toList = some date ∧ date.isValid = true ∧
      (MarkerConfig.standard.firstYear ≤ date.yearNumber ∧
        date.yearNumber ≤ MarkerConfig.standard.lastYear) ∧
      diagnose noFaults .standard newYear .date "٢٠٢٤-02-29".toList 1 = none ∧
      (∃ item ∈ days date, item.value.toList = "٢٠٢٤-02-29".toList) ∧
      ∀ item ∈ days date, item.value.toList ≠ "٢٠٢٤-02-30".toList := by
  let date : PartialDate := ⟨"٢٠٢٤".toList, "2".toList, []⟩
  have read : PartialDate.ofText? "٢٠٢٤-2-".toList = some date := by decide
  have valid : date.isValid = true := by decide
  have allowed : MarkerConfig.standard.firstYear ≤ date.yearNumber ∧
      date.yearNumber ≤ MarkerConfig.standard.lastYear := by decide
  have agrees := (days_are_accepted .standard newYear _ read valid allowed).1
  have leapDay : diagnose noFaults .standard newYear .date (date.withDay "29".toList) 1 = none := by
    decide
  have noDay : diagnose noFaults .standard newYear .date (date.withDay "30".toList) 1 ≠ none := by
    decide
  refine ⟨date, read, valid, allowed, leapDay, ?_, fun item member written => ?_⟩
  · exact (agrees "29".toList (by decide) 1).1.mpr ⟨List.all_eq_true.mp (by decide), leapDay⟩
  · exact noDay ((agrees "30".toList (by decide) 1).1.mp ⟨item, member, written⟩).2

/-- The first of January with its day in the digits of another script is accepted, but it is not
listed. -/
theorem exists_accepted_day_not_listed :
    ∃ date, PartialDate.ofText? "2024-01-".toList = some date ∧ date.isValid = true ∧
      (MarkerConfig.standard.firstYear ≤ date.yearNumber ∧
        date.yearNumber ≤ MarkerConfig.standard.lastYear) ∧
      IsDigits 2 2 "٠١".toList ∧ date.withDay "٠١".toList = "2024-01-٠١".toList ∧
      diagnose noFaults .standard newYear .date "2024-01-٠١".toList 1 = none ∧
      ∀ item ∈ days date, item.value.toList ≠ "2024-01-٠١".toList := by
  refine ⟨⟨"2024".toList, "01".toList, []⟩, ?_⟩
  decide +kernel

end Candidate

end InlineMarkers
