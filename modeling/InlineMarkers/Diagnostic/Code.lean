/-!
# Diagnostic codes

Every diagnostic that the library makes has one of these codes.  A code is also
a text, which is how other programs tell diagnostics apart.
-/

namespace InlineMarkers

/-- What a diagnostic is about. -/
inductive DiagnosticCode where
  | colorFormatInvalid
  | dateFormatSlash
  | dateFormatUs
  | dateFormatUsHyphen
  | dateYearRange
  | dateMonthRange
  | dateDayRange
  | dateCalendarInvalid
  | dateFormatInvalid
  | priorityInvalid
  | tagEmpty
  | tagInvalidChars
  | tagTooLong
  | assigneeInvalidFormat
  | assigneeTooLong
  | tagIncomplete
  | colorIncomplete
  | dateIncomplete
  | assigneeIncomplete
  | priorityIncomplete
  | tagSuggestion
  | datePatternSuggestion
  /-- A code that the library does not use itself. -/
  | other (text : String)
  deriving DecidableEq, Repr

namespace DiagnosticCode

def text : DiagnosticCode → String
  | colorFormatInvalid => "COLOR_FORMAT_INVALID"
  | dateFormatSlash => "DATE_FORMAT_SLASH"
  | dateFormatUs => "DATE_FORMAT_US"
  | dateFormatUsHyphen => "DATE_FORMAT_US_HYPHEN"
  | dateYearRange => "DATE_YEAR_RANGE"
  | dateMonthRange => "DATE_MONTH_RANGE"
  | dateDayRange => "DATE_DAY_RANGE"
  | dateCalendarInvalid => "DATE_CALENDAR_INVALID"
  | dateFormatInvalid => "DATE_FORMAT_INVALID"
  | priorityInvalid => "PRIORITY_INVALID"
  | tagEmpty => "TAG_EMPTY"
  | tagInvalidChars => "TAG_INVALID_CHARS"
  | tagTooLong => "TAG_TOO_LONG"
  | assigneeInvalidFormat => "ASSIGNEE_INVALID_FORMAT"
  | assigneeTooLong => "ASSIGNEE_TOO_LONG"
  | tagIncomplete => "TAG_INCOMPLETE"
  | colorIncomplete => "COLOR_INCOMPLETE"
  | dateIncomplete => "DATE_INCOMPLETE"
  | assigneeIncomplete => "ASSIGNEE_INCOMPLETE"
  | priorityIncomplete => "PRIORITY_INCOMPLETE"
  | tagSuggestion => "TAG_SUGGESTION"
  | datePatternSuggestion => "DATE_PATTERN_SUGGESTION"
  | other text => text

def all : List DiagnosticCode :=
  [colorFormatInvalid, dateFormatSlash, dateFormatUs, dateFormatUsHyphen, dateYearRange,
    dateMonthRange, dateDayRange, dateCalendarInvalid, dateFormatInvalid, priorityInvalid,
    tagEmpty, tagInvalidChars, tagTooLong, assigneeInvalidFormat, assigneeTooLong,
    tagIncomplete, colorIncomplete, dateIncomplete, assigneeIncomplete, priorityIncomplete,
    tagSuggestion, datePatternSuggestion]

def ofText (text : String) : DiagnosticCode :=
  (all.find? (·.text == text)).getD (other text)

end DiagnosticCode

end InlineMarkers
