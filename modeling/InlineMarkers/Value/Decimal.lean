import InlineMarkers.Value.Binary64

/-!
# Decimal texts of double-precision numbers

Reading rounds a decimal to the nearest number.  Writing takes the fewest
digits that read back as the same number and, among those, the decimal nearest
to it; of two equally near ones it takes the even one.  The digits are then laid
out with a point when the number is of a common size, and with an exponent when
it is very small or very large.
-/

namespace InlineMarkers.Decimal

def digitTexts (n : Nat) : List Char :=
  Nat.toDigits 10 n

/-- The number nearest to `digits` times a power of ten.  Sizes far outside the range
of numbers are settled before any large power is computed. -/
def read (negative : Bool) (digits : Nat) (exponent : Int) : Binary64 :=
  let size := (digitTexts digits).length + exponent
  if digits = 0 ∨ size < -330 then Binary64.ofMagnitude negative 0
  else if 320 < size then Binary64.infinity negative
  else
    Binary64.ofRatio negative (digits * Nat.pow 10 exponent.toNat) (Nat.pow 10 (-exponent).toNat)

/-- The least power of ten above a positive fraction, as the number of digits that the
fraction has before its point. -/
def pointPosition (numerator denominator : Nat) : Int :=
  let estimate := (((numerator.log2 : Int) - denominator.log2 - 1) * 30103) / 100000
  let isAbove (position : Int) : Bool :=
    numerator * Nat.pow 10 (-position).toNat < denominator * Nat.pow 10 position.toNat
  ([estimate - 1, estimate, estimate + 1, estimate + 2].find? isAbove).getD (estimate + 3)

/-- A decimal: digits and the power of ten that scales them. -/
structure Scaled where
  digits : Nat
  exponent : Int
  deriving DecidableEq, Repr

/-- The decimals with a given exponent that lie next to a fraction, the nearer one first;
of two equally near ones the even one comes first. -/
def neighbours (numerator denominator : Nat) (exponent : Int) : List Scaled :=
  let scaledNumerator := numerator * Nat.pow 10 (-exponent).toNat
  let scaledDenominator := denominator * Nat.pow 10 exponent.toNat
  let below := scaledNumerator / scaledDenominator
  let rest := scaledNumerator % scaledDenominator
  if 2 * rest < scaledDenominator ∨ (2 * rest = scaledDenominator ∧ below % 2 = 0) then
    [⟨below, exponent⟩, ⟨below + 1, exponent⟩]
  else [⟨below + 1, exponent⟩, ⟨below, exponent⟩]

/-- The shortest decimal that reads back as a finite number other than zero, the nearest
one of that length.  Seventeen digits always suffice. -/
def shortest (number : Binary64) : Scaled :=
  let (numerator, denominator) := number.ratio
  let position := pointPosition numerator denominator
  let candidates := (List.range 17).flatMap fun count =>
    neighbours numerator denominator (position - (count + 1 : Nat))
  let found := candidates.find? fun decimal =>
    decide (decimal.digits ≠ 0) &&
      read number.isNegative decimal.digits decimal.exponent == number
  found.getD ⟨numerator, 0⟩

/-- Digits with a decimal point in the usual place: at least one digit on either side. -/
def positional (digits : List Char) (point : Int) : List Char :=
  if point ≤ 0 then '0' :: '.' :: (List.replicate (-point).toNat '0' ++ digits)
  else if digits.length ≤ point.toNat then
    digits ++ List.replicate (point.toNat - digits.length) '0' ++ ['.', '0']
  else digits.take point.toNat ++ '.' :: digits.drop point.toNat

/-- Digits with the point behind the first one and an exponent of at least two digits. -/
def scientific (digits : List Char) (point : Int) : List Char :=
  let exponent := point - 1
  let size := digitTexts exponent.natAbs
  let mantissa :=
    match digits with
    | [] => []
    | [digit] => [digit]
    | digit :: others => digit :: '.' :: others
  mantissa ++ 'e' :: (if exponent < 0 then '-' else '+') ::
    (List.replicate (2 - size.length) '0' ++ size)

/-- Decimal digits laid out: with a point for sizes from a ten-thousandth up to, but not
including, ten to the sixteenth; with an exponent otherwise. -/
def layOut (decimal : Scaled) : List Char :=
  let digits := digitTexts decimal.digits
  let point := digits.length + decimal.exponent
  let significant := (digits.reverse.dropWhile (· == '0')).reverse
  if -4 < point ∧ point ≤ 16 then positional significant point else scientific significant point

/-- How infinity and the absence of a number are spelled. -/
structure Spelling where
  infinity : List Char
  notANumber : List Char

/-- The text of a number, with a spelling for those that have no digits. -/
def write (spelling : Spelling) (number : Binary64) : List Char :=
  if number.isNaN then spelling.notANumber
  else
    (if number.isNegative then ['-'] else []) ++
      (if number.isInfinite then spelling.infinity
        else if number.isZero then ['0', '.', '0']
        else layOut (shortest number))

end InlineMarkers.Decimal
