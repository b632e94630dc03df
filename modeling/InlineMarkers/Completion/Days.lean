import InlineMarkers.Calendar.PartialDate
import InlineMarkers.Completion.Candidate

/-!
# Days of a month as candidates

A date typed up to its month is completed by the days of that month.  The year
and the month stay as they were typed, the month filled up to two digits.
-/

namespace InlineMarkers.Candidate

open Calendar

def ofDay (date : PartialDate) (day : Nat) : Candidate :=
  let month := List.replicate (2 - date.month.length) '0' ++ date.month
  let name := monthName date.monthNumber
  let year := String.ofList date.year
  { value := String.ofList (date.year ++ '-' :: month ++ '-' :: padded 2 day)
    label := toString day
    description := some s!"{name} {day}, {year}"
    category := some "Days" }

/-- The candidates for the days of a partial date's month in their order; none when the date
is not valid. -/
def days (date : PartialDate) : List Candidate :=
  (List.range date.days.toNat).map fun index => ofDay date (index + 1)

end InlineMarkers.Candidate
