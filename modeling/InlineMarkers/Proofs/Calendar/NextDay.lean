import InlineMarkers.Proofs.Calendar.Gregorian

/-!
# The next day of the calendar

The days of the calendar stand in the order of their years, months and days, and
the next day after a date is the first one that comes later.  Tomorrow is computed
from the lengths of the months and the order of the months alone; it is the next
day all the same, at the ends of months and years and in leap years too.
-/

namespace InlineMarkers.Calendar.Date

variable {today next other : Date}

/-- A date comes before a day: its year is earlier, or in the same year its month, or in the
same month its day. -/
def Precedes (date : Date) (year month day : Int) : Prop :=
  date.year < year ∨
    date.year = year ∧ (date.month < month ∨ date.month = month ∧ date.day < day)

/-- A later date with no day of the calendar in between: every later day is that one, or it
comes after it. -/
structure IsNext (today next : Date) : Prop where
  later : today.Precedes next.year next.month next.day
  closest : ∀ {year month day : Int}, IsDay year month day → today.Precedes year month day →
    (next.year = year ∧ next.month = month ∧ next.day = day) ∨ next.Precedes year month day

/-- What the lengths of the months and their order make of a date: the next day of the same
month, or the first day of the following month. -/
inductive AdvancesTo (today next : Date) : Prop where
  | inMonth (early : today.day < daysInMonth today.month today.year)
      (sameMonth : next.month = today.month ∧ next.year = today.year)
      (nextDay : next.day = today.day + 1)
  | toFollowingMonth (last : today.day = daysInMonth today.month today.year)
      (following : (next.month, next.year) = followingMonth today.month today.year)
      (firstDay : next.day = 1)

theorem of?_eq_some {year month day : Int} {date : Date} (found : of? year month day = some date) :
    date.year = year ∧ date.month = month ∧ date.day = day := by
  unfold of? at found
  split at found
  · rw [← Option.some.inj found]
    exact ⟨rfl, rfl, rfl⟩
  · cases found

theorem advancesTo_of_tomorrow? (found : today.tomorrow? = some next) :
    today.AdvancesTo next := by
  have inMonth := today.day_le
  unfold tomorrow? at found
  split at found
  · rename_i early
    obtain ⟨year, month, day⟩ := of?_eq_some found
    exact .inMonth early ⟨month, year⟩ day
  · rename_i late
    obtain ⟨year, month, day⟩ := of?_eq_some found
    exact .toFollowingMonth (by omega) (Prod.ext month year) day

/-- No day of a month comes after its last one. -/
theorem Precedes.of_last {year month day : Int} (precedes : today.Precedes year month day)
    (isDay : IsDay year month day) (last : today.day = daysInMonth today.month today.year) :
    today.year < year ∨ today.year = year ∧ today.month < month := by
  obtain ⟨-, -, inMonth⟩ := isDay_iff.mp isDay
  rcases precedes with laterYear | ⟨sameYear, laterMonth | ⟨sameMonth, laterDay⟩⟩
  · exact .inl laterYear
  · exact .inr ⟨sameYear, laterMonth⟩
  · rw [← sameYear, ← sameMonth] at inMonth
    omega

theorem AdvancesTo.isNext (advances : today.AdvancesTo next) : today.IsNext next := by
  have monthLast := today.month_le
  cases advances with
  | inMonth early sameMonth nextDay =>
      refine ⟨by simp only [Precedes]; omega, fun _ later => ?_⟩
      simp only [Precedes] at later ⊢
      omega
  | toFollowingMonth last following firstDay =>
      -- either the month is December, or the following one is in the same year
      obtain ⟨newYear, newMonth⟩ | ⟨sameYear, newMonth⟩ :
          (today.month = 12 ∧ next.year = today.year + 1) ∧ next.month = 1 ∨
          next.year = today.year ∧ next.month = today.month + 1 := by
        simp only [followingMonth] at following
        split at following <;>
        · rw [Prod.mk.injEq] at following
          omega
      all_goals
        refine ⟨by simp only [Precedes]; omega, fun isDay later => ?_⟩
        have laterMonth := later.of_last isDay last
        obtain ⟨inYear, first, -⟩ := isDay_iff.mp isDay
        simp only [Precedes]
        omega

/-- There is only one next day. -/
theorem IsNext.unique (isNext : today.IsNext next) (isOther : today.IsNext other) :
    next = other := by
  have same : next.year = other.year ∧ next.month = other.month ∧ next.day = other.day := by
    have fromNext := isNext.closest other.isDay isOther.later
    have fromOther := isOther.closest next.isDay isNext.later
    simp only [Precedes] at fromNext fromOther
    omega
  cases next
  cases other
  simpa using same

/-- Tomorrow is the next day of the calendar. -/
theorem tomorrow?_eq_some_iff : today.tomorrow? = some next ↔ today.IsNext next := by
  refine ⟨fun found => (advancesTo_of_tomorrow? found).isNext, fun isNext => ?_⟩
  have notLast : ¬(today.year = 9999 ∧ today.month = 12 ∧ today.day = 31) := by
    have later := isNext.later
    have lastYear := next.year_le
    have lastMonth := next.month_le
    have lastDay := next.day_le
    have longest := daysInMonth_le_thirtyOne next.month next.year
    simp only [Precedes] at later
    omega
  obtain ⟨tomorrow, found⟩ := Option.isSome_iff_exists.mp (today.tomorrow?_isSome notLast)
  rw [found, (advancesTo_of_tomorrow? found).isNext.unique isNext]

end InlineMarkers.Calendar.Date
