import InlineMarkers.Text.Blank
import InlineMarkers.Text.DecimalDigit
import InlineMarkers.Value.Basic

/-!
# Integers from values

A value is read as an integer wherever the library expects one.  A truth value
counts as one or zero and a floating-point number loses its fraction.  A text
must be a numeral: decimal digits of any script, single underscores between
them, a sign before them and blanks around them.  The four separator controls
are blank but may not stand around a numeral, and a numeral has at most 4300
digits.
-/

namespace InlineMarkers

open Text

/-- Why a value is no integer. -/
inductive NumeralError where
  /-- The text is no numeral, or the number is not a number. -/
  | notNumeral
  /-- The value is null, an array or an object. -/
  | notNumeric
  /-- The number is infinite. -/
  | infinite
  deriving DecidableEq, Repr

namespace Numeral

/-- A blank that may stand around a numeral. -/
def isMargin (c : Char) : Bool :=
  isBlank c && !(0x1C ≤ c.toNat && c.toNat ≤ 0x1F)

/-- The most digits a numeral may have. -/
def digitLimit : Nat := 4300

/-- The digits of a numeral without its sign: an underscore must have a digit on either
side, as the flag for a digit just read records. -/
def digits? : Bool → List Char → Option (List Char)
  | afterDigit, [] => if afterDigit then some [] else none
  | true, '_' :: rest => digits? false rest
  | _, c :: rest => if isDecimalDigit c then (digits? true rest).map (c :: ·) else none

/-- The natural number that a numeral without a sign names. -/
def natural? (text : List Char) : Option Nat :=
  (digits? false text).bind fun digits =>
    if digits.length ≤ digitLimit then some (digitsValue digits) else none

/-- The integer that a text names. -/
def integer? (text : List Char) : Option Int :=
  let inner := ((text.dropWhile isMargin).reverse.dropWhile isMargin).reverse
  match inner with
  | '-' :: rest => (natural? rest).map fun n => -(n : Int)
  | '+' :: rest => (natural? rest).map Int.ofNat
  | rest => (natural? rest).map Int.ofNat

end Numeral

namespace Value

/-- The integer that a value stands for, or why there is none. -/
def toInteger : Value → Except NumeralError Int
  | bool value => .ok (if value then 1 else 0)
  | int value => .ok value
  | float value =>
      if value.isNaN then .error .notNumeral
      else if value.isInfinite then .error .infinite
      else .ok value.truncated
  | text value =>
      match Numeral.integer? value.toList with
      | some n => .ok n
      | none => .error .notNumeral
  | _ => .error .notNumeric

/-- The integer that a value stands for, or zero, and never less than zero. -/
def asOffset (value : Value) : Nat :=
  match value.toInteger with
  | .ok n => n.toNat
  | .error _ => 0

@[simp] theorem toInteger_int (n : Int) : (int n).toInteger = .ok n := rfl

end Value

end InlineMarkers
