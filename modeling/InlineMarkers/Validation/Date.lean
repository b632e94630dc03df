import InlineMarkers.Diagnostic.Basic
import InlineMarkers.Settings.MarkerConfig
import InlineMarkers.Validation.DateForm

/-!
# Dates

A date that is written year, month, day with hyphens must name a day of the
calendar in a year that the settings allow.  The other numeric forms are
brought into that order, and for everything unknown today and tomorrow are
offered, as keywords and as dates.  The check of an unknown form therefore needs
the day after today, which the last day of the calendar does not have.
-/

namespace InlineMarkers.Validation

open Text Calendar

/-- Why a check can fail. -/
inductive CheckFailure where
  /-- The calendar ends today. -/
  | noTomorrow
  /-- The check is out of order. -/
  | broken
  deriving DecidableEq, Repr

/-- A number in two digits, as messages show it. -/
def twoDigits (n : Int) : String :=
  String.ofList (padded 2 n)

/-- The diagnostic for a date whose parts are in another order or have other separators. -/
def dateFormat (value : List Char) (start : Nat) (year month day : Int) (message : String)
    (code : DiagnosticCode) : Diagnostic :=
  let fixed := isoText year month day
  Diagnostic.ofValue .error message start value (some fixed) (some code)
    (some "Use @YYYY-MM-DD format (e.g., @2025-02-15)")
    [⟨"Fix format", fixed, some "Convert to @YYYY-MM-DD format"⟩]

/-- The diagnostic for a year that the settings do not allow. -/
def yearRange (config : MarkerConfig) (today : Date) (value : List Char) (start : Nat)
    (year month day : Int) : Diagnostic :=
  let first := config.firstYear
  let last := config.lastYear
  let current := today.year
  let fixed := isoText current month day
  Diagnostic.ofValue .error s!"Year {year} seems unusual. Expected {first}-{last}."
    start value (some fixed) (some .dateYearRange)
    (some s!"Year should be between {first} and {last}")
    [⟨"Use current year", fixed, some s!"Change year to {current}"⟩]

/-- The diagnostic for a month outside the calendar. -/
def monthRange (value : List Char) (start : Nat) (year month day : Int) : Diagnostic :=
  let fixedMonth : Int := if 12 < month then 12 else 1
  let fixed := isoText year fixedMonth day
  let shown := twoDigits month
  let shownFixed := twoDigits fixedMonth
  Diagnostic.ofValue .error s!"Invalid month {shown} - must be 01-12." start value (some fixed)
    (some .dateMonthRange) (some "Month must be 01-12 (e.g., 02 for February)")
    [⟨if 12 < month then "Fix to December" else "Fix month", fixed,
      some s!"Change month to {shownFixed}"⟩]

/-- The diagnostic for a day that no month has. -/
def dayRange (value : List Char) (start : Nat) (year month day : Int) : Diagnostic :=
  let fixedDay : Int := if 31 < day then daysInMonth month year else 1
  let fixed := isoText year month fixedDay
  let shown := twoDigits day
  let shownFixed := twoDigits fixedDay
  Diagnostic.ofValue .error s!"Day must be 01-31, but got {shown}." start value (some fixed)
    (some .dateDayRange) (some "Day must be 01-31 depending on the month")
    [⟨"Fix day", fixed, some s!"Change day to {shownFixed}"⟩]

/-- The fixes for a day that its month does not have: the last day of the month, and for
months other than February the same day of the next month, if that month has it. -/
def calendarFixes (year month day : Int) : List QuickFix :=
  let name := monthName month
  let last := daysInMonth month year
  let clamped := isoText year month last
  if month = 2 then
    if isLeapYear year then
      [⟨"Use Feb 29", clamped, some "Change to last day of February (leap year)"⟩]
    else [⟨"Use Feb 28", clamped, some "Change to last day of February"⟩]
  else
    let (nextMonth, nextYear) := followingMonth month year
    let nextName := monthName nextMonth
    ⟨s!"Use {name} {last}", clamped, some s!"Change to last day of {name}"⟩ ::
      (if day ≤ daysInMonth nextMonth nextYear then
        [⟨s!"Use {nextName} {day}", isoText nextYear nextMonth day,
          some s!"Change to {nextName} {day}, {nextYear}"⟩]
      else [])

/-- The diagnostic for a day that its month does not have. -/
def calendarInvalid (value : List Char) (start : Nat) (year month day : Int) : Diagnostic :=
  let name := monthName month
  let last := daysInMonth month year
  let leap := month = 2 ∧ isLeapYear year
  let message :=
    if month = 2 then
      if isLeapYear year then
        s!"{name} has 29 days in {year} (leap year), but got day {day}."
      else s!"{name} has 28 days in {year}, but got day {day}."
    else s!"{name} only has {last} days, but got day {day}."
  let leapNote := if leap then " (leap year)" else ""
  Diagnostic.ofValue .error message start value (some (isoText year month last))
    (some .dateCalendarInvalid) (some s!"{name} {year} has {last} days{leapNote}")
    (calendarFixes year month day)

def checkIso (config : MarkerConfig) (today : Date) (value : List Char) (start : Nat)
    (year month day : Int) : Option Diagnostic :=
  if year < config.firstYear ∨ config.lastYear < year then
    some (yearRange config today value start year month day)
  else if month < 1 ∨ 12 < month then some (monthRange value start year month day)
  else if day < 1 ∨ 31 < day then some (dayRange value start year month day)
  else if day ≤ daysInMonth month year then none
  else some (calendarInvalid value start year month day)

def unknownDate (value : List Char) (start : Nat) (today tomorrow : Date) : Diagnostic :=
  let current := String.ofList today.text
  let next := String.ofList tomorrow.text
  Diagnostic.ofValue .error
    "Invalid date format. Use keywords like \"today\", \"tomorrow\" or YYYY-MM-DD format."
    start value (some "today".toList) (some .dateFormatInvalid)
    (some "Valid formats: @today, @tomorrow, @2025-02-15")
    [⟨"Use \"today\"", "today".toList, some "Set to today's date"⟩,
      ⟨"Use \"tomorrow\"", "tomorrow".toList, some "Set to tomorrow's date"⟩,
      ⟨"Use current date", today.text, some s!"Set to today ({current})"⟩,
      ⟨"Use tomorrow date", tomorrow.text, some s!"Set to tomorrow ({next})"⟩]

/-- The diagnostic for a date's value; it fails when the form is unknown and there is no
tomorrow. -/
def checkDate (config : MarkerConfig) (today : Date) (value : List Char) (start : Nat) :
    Except CheckFailure (Option Diagnostic) :=
  if value.isEmpty then .ok none
  else
    match DateForm.ofText value with
    | .beginning | .keyword => .ok none
    | .slashed year month day =>
        .ok <| some <| dateFormat value start year month day
          "Invalid date format - use hyphens instead of slashes." .dateFormatSlash
    | .monthFirst year month day =>
        .ok <| some <| dateFormat value start year month day
          "Invalid MM/DD/YYYY format - use @YYYY-MM-DD instead." .dateFormatUs
    | .monthFirstHyphens year month day =>
        .ok <| some <| dateFormat value start year month day
          "Invalid MM-DD-YYYY format - use @YYYY-MM-DD instead." .dateFormatUsHyphen
    | .iso year month day => .ok (checkIso config today value start year month day)
    | .unknown =>
        match today.tomorrow? with
        | some tomorrow => .ok (some (unknownDate value start today tomorrow))
        | none => .error .noTomorrow

end InlineMarkers.Validation
