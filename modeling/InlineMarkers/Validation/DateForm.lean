import InlineMarkers.Calendar.PartialDate
import InlineMarkers.Marker.Vocabulary

/-!
# Forms of dates

What is typed after the at sign is a date still being typed, a keyword, one of
four numeric forms, or nothing that is known.  The numeric forms differ in the
order of their parts and in the separator; all of them name a year, a month and
a day.  One final line break is ignored, except by keywords, which ignore all
blanks around them.
-/

namespace InlineMarkers

open Text Calendar

/-- What a typed date looks like. -/
inductive DateForm where
  | beginning
  | keyword
  /-- Year, month, day with slashes. -/
  | slashed (year month day : Nat)
  /-- Month, day, year with slashes. -/
  | monthFirst (year month day : Nat)
  /-- Month, day, year with hyphens. -/
  | monthFirstHyphens (year month day : Nat)
  /-- Year, month, day with hyphens, as dates should be. -/
  | iso (year month day : Nat)
  | unknown
  deriving DecidableEq, Repr

namespace DateForm

/-- Whether a text is the beginning of a date: up to four digits of the year, the hyphen
after the year, up to two digits of the month, the hyphen after the month. -/
def isBeginning (typed : List Char) : Bool :=
  match fields '-' (withoutFinalBreak typed) with
  | [year] => isDigitRow 1 4 year
  | [year, month] => isDigitRow 4 4 year && isDigitRow 0 2 month
  | [year, month, []] => isDigitRow 4 4 year && isDigitRow 1 2 month
  | _ => false

def ofHyphens (typed : List Char) : DateForm :=
  match fields '-' (withoutFinalBreak typed) with
  | [a, b, c] =>
      if isDigitRow 1 2 a && isDigitRow 1 2 b && isDigitRow 4 4 c then
        monthFirstHyphens (digitsValue c) (digitsValue a) (digitsValue b)
      else if isDigitRow 4 4 a && isDigitRow 1 2 b && isDigitRow 1 2 c then
        iso (digitsValue a) (digitsValue b) (digitsValue c)
      else unknown
  | _ => unknown

/-- The form of a text that is neither a beginning nor a keyword. -/
def numeric (typed : List Char) : DateForm :=
  match fields '/' (withoutFinalBreak typed) with
  | [a, b, c] =>
      if isDigitRow 4 4 a && isDigitRow 1 2 b && isDigitRow 1 2 c then
        slashed (digitsValue a) (digitsValue b) (digitsValue c)
      else if isDigitRow 1 2 a && isDigitRow 1 2 b && isDigitRow 4 4 c then
        monthFirst (digitsValue c) (digitsValue a) (digitsValue b)
      else unknown
  | _ => ofHyphens typed

def ofText (typed : List Char) : DateForm :=
  if isBeginning typed then beginning
  else if isDateKeyword typed then keyword
  else numeric typed

end DateForm

end InlineMarkers
