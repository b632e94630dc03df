import InlineMarkers.Marker.Scanner
import InlineMarkers.Value.Numeral

/-!
# Scanning values of unknown shape

A text and a limit may come from outside.  What is not a text has no markers,
and then the limit does not matter; otherwise the limit must be an integer that
is not too large, and a negative one counts as zero.
-/

namespace InlineMarkers

/-- Why a limit cannot be used. -/
inductive ScanError where
  | notInteger (cause : NumeralError)
  | tooLarge
  deriving DecidableEq, Repr

def largestTagLimit : Nat := 4294967294

/-- The limit that a value stands for. -/
def tagLimit (value : Value) : Except ScanError Nat :=
  match value.toInteger with
  | .error cause => .error (.notInteger cause)
  | .ok limit => if largestTagLimit < limit.toNat then .error .tooLarge else .ok limit.toNat

/-- The markers of a text under a limit. -/
def scanValue (text limit : Value) : Except ScanError (List Marker) :=
  match text.asText with
  | [] => .ok []
  | text => (tagLimit limit).map (scan · text)

/-- The markers of a text under a limit, none if the limit cannot be used. -/
def scanValueOrNone (text limit : Value) : List Marker :=
  match scanValue text limit with
  | .ok markers => markers
  | .error _ => []

end InlineMarkers
