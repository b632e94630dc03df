/-!
# Months of the Gregorian calendar

Leap years, the number of days of each month, month names, and which month
follows which.  Years and months are integers, so that questions about months
outside the calendar have answers too: such a month has no days and no name.
-/

namespace InlineMarkers.Calendar

/-- Every fourth year is a leap year, except the centuries that 400 does not divide. -/
def isLeapYear (year : Int) : Bool :=
  (year % 4 == 0 && year % 100 != 0) || year % 400 == 0

/-- The number of days of a month; zero outside the calendar. -/
def daysInMonth (month year : Int) : Int :=
  if month < 1 ∨ 12 < month then 0
  else if month = 2 then (if isLeapYear year then 29 else 28)
  else if month = 4 ∨ month = 6 ∨ month = 9 ∨ month = 11 then 30
  else 31

def monthNames : List String :=
  ["January", "February", "March", "April", "May", "June", "July", "August", "September",
    "October", "November", "December"]

def monthName (month : Int) : String :=
  if 1 ≤ month then (monthNames[(month - 1).toNat]?).getD "Unknown" else "Unknown"

def followingMonth (month year : Int) : Int × Int :=
  if 12 ≤ month then (1, year + 1) else (month + 1, year)

theorem twentyEight_le_daysInMonth {month : Int} (year : Int) (lower : 1 ≤ month)
    (upper : month ≤ 12) : 28 ≤ daysInMonth month year := by
  unfold daysInMonth
  repeat' split
  all_goals omega

theorem daysInMonth_le_thirtyOne (month year : Int) : daysInMonth month year ≤ 31 := by
  unfold daysInMonth
  repeat' split
  all_goals omega

end InlineMarkers.Calendar
