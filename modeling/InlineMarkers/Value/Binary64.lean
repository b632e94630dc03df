/-!
# Double-precision numbers

A `Binary64` is a sign, an 11-bit exponent field and a 52-bit fraction field in
one 64-bit word.  The library never computes with such numbers; it reads them,
keeps them, cuts them to integers and writes them.  So rounding is done once, in
exact arithmetic: `ofRatio` gives the number nearest to a fraction, and a tie
goes to the even neighbour.
-/

namespace InlineMarkers

/-- A double-precision floating-point number, by its bits. -/
structure Binary64 where
  bits : UInt64
  deriving DecidableEq, Repr, Inhabited

namespace Binary64

def isNegative (number : Binary64) : Bool :=
  Nat.pow 2 63 ≤ number.bits.toNat

def magnitude (number : Binary64) : Nat :=
  number.bits.toNat % Nat.pow 2 63

/-- The bits of infinity without the sign; larger magnitudes are no numbers. -/
def infinityMagnitude : Nat :=
  0x7FF * Nat.pow 2 52

/-- Whether the word stands for no number at all. -/
def isNaN (number : Binary64) : Bool :=
  infinityMagnitude < number.magnitude

def isInfinite (number : Binary64) : Bool :=
  number.magnitude == infinityMagnitude

/-- Whether the number is zero, with either sign. -/
def isZero (number : Binary64) : Bool :=
  number.magnitude == 0

/-- The whole number that a power of two scales to a finite number's size. -/
def significand (number : Binary64) : Nat :=
  let exponentField := number.magnitude / Nat.pow 2 52
  let fraction := number.magnitude % Nat.pow 2 52
  if exponentField = 0 then fraction else Nat.pow 2 52 + fraction

/-- The power of two that scales the significand. -/
def exponent (number : Binary64) : Int :=
  (max (number.magnitude / Nat.pow 2 52) 1 : Nat) - 1075

/-- The size of a finite number as a fraction: numerator and denominator. -/
def ratio (number : Binary64) : Nat × Nat :=
  (number.significand * Nat.pow 2 number.exponent.toNat, Nat.pow 2 (-number.exponent).toNat)

/-- A finite number without its fractional part. -/
def truncated (number : Binary64) : Int :=
  let (numerator, denominator) := number.ratio
  let whole : Nat := numerator / denominator
  if number.isNegative then -whole else whole

/-- The number with a sign and a magnitude. -/
def ofMagnitude (negative : Bool) (magnitude : Nat) : Binary64 :=
  ⟨UInt64.ofNat ((if negative then Nat.pow 2 63 else 0) + magnitude)⟩

def infinity (negative : Bool) : Binary64 :=
  ofMagnitude negative infinityMagnitude

/-- A word that stands for no number. -/
def notANumber : Binary64 :=
  ofMagnitude false (infinityMagnitude + Nat.pow 2 51)

/-- A quotient rounded to the nearest whole number, a tie to the even one. -/
def roundedQuotient (numerator denominator : Nat) : Nat :=
  let quotient := numerator / denominator
  let rest := numerator % denominator
  if denominator < 2 * rest ∨ (2 * rest = denominator ∧ quotient % 2 = 1) then quotient + 1
  else quotient

/-- A quotient after its denominator is scaled by a power of two. -/
def scaledQuotient (numerator denominator : Nat) (scale : Int) : Nat × Nat :=
  (numerator * Nat.pow 2 (-scale).toNat, denominator * Nat.pow 2 scale.toNat)

/-- The number nearest to a positive fraction.  The scale is the power of two that leaves
53 bits before the point, or the least one there is. -/
def ofRatio (negative : Bool) (numerator denominator : Nat) : Binary64 :=
  let estimate := max ((numerator.log2 : Int) - denominator.log2 - 52) (-1074)
  let (scaledNumerator, scaledDenominator) := scaledQuotient numerator denominator estimate
  let scale :=
    if scaledNumerator / scaledDenominator < Nat.pow 2 52 then max (estimate - 1) (-1074)
    else estimate
  let (finalNumerator, finalDenominator) := scaledQuotient numerator denominator scale
  let magnitude :=
    (scale + 1074).toNat * Nat.pow 2 52 + roundedQuotient finalNumerator finalDenominator
  ofMagnitude negative (min magnitude infinityMagnitude)

end Binary64

end InlineMarkers
