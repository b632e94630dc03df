import InlineMarkers.Calendar.Date

/-!
# The days of the Gregorian calendar

The rules of the calendar, for all years: seven months have thirty-one days, four
have thirty, and February has a twenty-ninth day in leap years only.  The table of
month lengths keeps these rules, and so does every date.
-/

namespace InlineMarkers.Calendar

variable {year month day : Int}

/-- Every fourth year is a leap year, but of the years that begin a century only every fourth. -/
def IsLeap (year : Int) : Prop :=
  4 ∣ year ∧ (100 ∣ year → 400 ∣ year)

instance (year : Int) : Decidable (IsLeap year) :=
  inferInstanceAs (Decidable (_ ∧ (_ → _)))

/-- A day of the calendar, given by its year, month and day. -/
inductive IsDay : Int → Int → Int → Prop where
  | ofLongMonth {year month day : Int} (long : month ∈ [1, 3, 5, 7, 8, 10, 12])
      (inside : 1 ≤ day ∧ day ≤ 31) : IsDay year month day
  | ofShortMonth {year month day : Int} (short : month ∈ [4, 6, 9, 11])
      (inside : 1 ≤ day ∧ day ≤ 30) : IsDay year month day
  | ofFebruary {year day : Int} (inside : 1 ≤ day ∧ day ≤ 28) : IsDay year 2 day
  | leapDay {year : Int} (leap : IsLeap year) : IsDay year 2 29

theorem isLeapYear_iff : isLeapYear year = true ↔ IsLeap year := by
  simp only [isLeapYear, IsLeap, Bool.or_eq_true, Bool.and_eq_true, beq_iff_eq, bne_iff_ne]
  omega

theorem daysInMonth_of_long (long : month ∈ [1, 3, 5, 7, 8, 10, 12]) (year : Int) :
    daysInMonth month year = 31 := by
  simp only [List.mem_cons, List.not_mem_nil, or_false] at long
  rcases long with rfl | rfl | rfl | rfl | rfl | rfl | rfl <;> rfl

theorem daysInMonth_of_short (short : month ∈ [4, 6, 9, 11]) (year : Int) :
    daysInMonth month year = 30 := by
  simp only [List.mem_cons, List.not_mem_nil, or_false] at short
  rcases short with rfl | rfl | rfl | rfl <;> rfl

theorem daysInMonth_of_february (year : Int) :
    daysInMonth 2 year = if isLeapYear year then 29 else 28 :=
  rfl

/-- The twelve months by their lengths. -/
theorem month_cases (inside : 1 ≤ month ∧ month ≤ 12) :
    month ∈ [1, 3, 5, 7, 8, 10, 12] ∨ month ∈ [4, 6, 9, 11] ∨ month = 2 := by
  simp only [List.mem_cons, List.not_mem_nil, or_false]
  omega

/-- The table of month lengths holds the days of the calendar and no others. -/
theorem isDay_iff :
    IsDay year month day ↔
      (1 ≤ month ∧ month ≤ 12) ∧ 1 ≤ day ∧ day ≤ daysInMonth month year := by
  constructor
  · intro isDay
    cases isDay with
    | ofLongMonth long inside =>
        rw [daysInMonth_of_long long]
        simp only [List.mem_cons, List.not_mem_nil, or_false] at long
        omega
    | ofShortMonth short inside =>
        rw [daysInMonth_of_short short]
        simp only [List.mem_cons, List.not_mem_nil, or_false] at short
        omega
    | ofFebruary inside =>
        rw [daysInMonth_of_february]
        split <;> omega
    | leapDay leap =>
        rw [daysInMonth_of_february, if_pos (isLeapYear_iff.mpr leap)]
        decide
  · rintro ⟨inYear, first, last⟩
    rcases month_cases inYear with long | short | rfl
    · rw [daysInMonth_of_long long] at last
      exact .ofLongMonth long ⟨first, last⟩
    · rw [daysInMonth_of_short short] at last
      exact .ofShortMonth short ⟨first, last⟩
    · rw [daysInMonth_of_february] at last
      by_cases february : day ≤ 28
      · exact .ofFebruary ⟨first, february⟩
      · split at last
        · rename_i leap
          obtain rfl : day = 29 := by omega
          exact .leapDay (isLeapYear_iff.mp leap)
        · omega

theorem Date.isDay (date : Date) : IsDay date.year date.month date.day :=
  isDay_iff.mpr ⟨⟨date.month_pos, date.month_le⟩, date.day_pos, date.day_le⟩

end InlineMarkers.Calendar
