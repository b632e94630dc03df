import InlineMarkers.Calendar.Date
import InlineMarkers.Text.Blank

/-!
# Dates still being typed

A partial date has its four-digit year and its month, and at most one digit of
the day.  It keeps the texts as they were typed, because they are shown again
in what completes them.
-/

namespace InlineMarkers.Calendar

open Text

/-- Whether a text is a row of digits whose length lies between two bounds. -/
def isDigitRow (shortest longest : Nat) (text : List Char) : Bool :=
  shortest ≤ text.length && text.length ≤ longest && text.all isDecimalDigit

/-- A date typed up to its month or to the first digit of its day. -/
structure PartialDate where
  year : List Char
  month : List Char
  /-- The digit of the day, if one is typed. -/
  day : List Char
  deriving DecidableEq, Repr

namespace PartialDate

/-- Reads a date that is typed at least to its month and at most to one digit of its
day; the hyphen before the day may be there without it. -/
def ofText? (typed : List Char) : Option PartialDate :=
  match fields '-' (withoutFinalBreak typed) with
  | [year, month] =>
      if isDigitRow 4 4 year && isDigitRow 1 2 month then some ⟨year, month, []⟩ else none
  | [year, month, day] =>
      if isDigitRow 4 4 year && isDigitRow 1 2 month && isDigitRow 0 1 day then
        some ⟨year, month, day⟩
      else none
  | _ => none

def yearNumber (date : PartialDate) : Int :=
  digitsValue date.year

def monthNumber (date : PartialDate) : Int :=
  digitsValue date.month

/-- Whether the year has four significant digits and the month is one of the twelve. -/
def isValid (date : PartialDate) : Bool :=
  1000 ≤ date.yearNumber && date.yearNumber ≤ 9999 &&
    1 ≤ date.monthNumber && date.monthNumber ≤ 12

/-- The number of days of the month; zero when the date is not valid. -/
def days (date : PartialDate) : Int :=
  if date.isValid then daysInMonth date.monthNumber date.yearNumber else 0

end PartialDate

end InlineMarkers.Calendar
