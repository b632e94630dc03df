import InlineMarkers.Calendar.Month
import InlineMarkers.Text.DecimalDigit
import InlineMarkers.Text.Fields

/-!
# Dates

A `Date` is a day of the Gregorian calendar in the years 1 to 9999; its fields
carry the proof that the day exists.  Every date but the last has a next day.
Dates are written year, month, day with hyphens.  `isoText` writes any three
numbers that way and leaves the year unpadded; `Date.text` pads the year.
-/

namespace InlineMarkers.Calendar

open Text

/-- The decimal digits of an integer, with a minus sign for a negative one. -/
def integerText (n : Int) : List Char :=
  if n < 0 then '-' :: Nat.toDigits 10 n.natAbs else Nat.toDigits 10 n.natAbs

/-- A number with zeros in front, so that it has at least the given width. -/
def padded (width : Nat) (n : Int) : List Char :=
  let digits := integerText n
  List.replicate (width - digits.length) '0' ++ digits

/-- Year, month and day with hyphens, month and day in two digits. -/
def isoText (year month day : Int) : List Char :=
  integerText year ++ '-' :: padded 2 month ++ '-' :: padded 2 day

structure Date where
  year : Int
  month : Int
  day : Int
  year_pos : 1 ≤ year
  year_le : year ≤ 9999
  month_pos : 1 ≤ month
  month_le : month ≤ 12
  day_pos : 1 ≤ day
  day_le : day ≤ daysInMonth month year
  deriving DecidableEq

namespace Date

def of? (year month day : Int) : Option Date :=
  if h : (1 ≤ year ∧ year ≤ 9999) ∧ (1 ≤ month ∧ month ≤ 12) ∧
      (1 ≤ day ∧ day ≤ daysInMonth month year) then
    some ⟨year, month, day, h.1.1, h.1.2, h.2.1.1, h.2.1.2, h.2.2.1, h.2.2.2⟩
  else none

/-- The date written with a four-digit year. -/
def text (date : Date) : List Char :=
  padded 4 date.year ++ '-' :: padded 2 date.month ++ '-' :: padded 2 date.day

/-- The next day; the last day of year 9999 has none. -/
def tomorrow? (date : Date) : Option Date :=
  if date.day < daysInMonth date.month date.year then
    of? date.year date.month (date.day + 1)
  else
    let following := followingMonth date.month date.year
    of? following.2 following.1 1

/-- Reads year, month and day, each a row of digits, with hyphens between them. -/
def ofText? (written : List Char) : Option Date :=
  match (fields '-' written).mapM digitRowValue? with
  | some [year, month, day] => of? year month day
  | _ => none

/-- Only the last date of all has no next day. -/
theorem tomorrow?_isSome (date : Date)
    (notLast : ¬(date.year = 9999 ∧ date.month = 12 ∧ date.day = 31)) :
    date.tomorrow?.isSome = true := by
  obtain ⟨year, month, day, yearPos, yearLe, monthPos, monthLe, dayPos, dayLe⟩ := date
  simp only at notLast
  simp only [tomorrow?, of?]
  split
  · rename_i inside
    rw [dif_pos ⟨⟨yearPos, yearLe⟩, ⟨monthPos, monthLe⟩, by omega, by omega⟩]
    rfl
  · rename_i outside
    simp only [followingMonth]
    split
    · rename_i december
      have isDecember : month = 12 := by omega
      subst isDecember
      have lastDay : daysInMonth 12 year = 31 := by simp [daysInMonth]
      have january : daysInMonth 1 (year + 1) = 31 := by simp [daysInMonth]
      rw [dif_pos ⟨⟨by simp; omega, by simp; omega⟩, ⟨by simp, by simp⟩, by simp, by
        simp only [january]; omega⟩]
      rfl
    · rename_i earlier
      have enough : 28 ≤ daysInMonth (month + 1) year :=
        twentyEight_le_daysInMonth year (by omega) (by omega)
      rw [dif_pos ⟨⟨yearPos, yearLe⟩, ⟨by simp; omega, by simp; omega⟩, by simp, by
        simp only; omega⟩]
      rfl

end Date

end InlineMarkers.Calendar
