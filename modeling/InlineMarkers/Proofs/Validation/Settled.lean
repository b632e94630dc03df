import InlineMarkers.Proofs.Diagnostic.Reports
import InlineMarkers.Proofs.Marker.ValueChange

/-!
# Values that settle a diagnostic

A fix is good when the value that it leaves is one of the marker's kind and the
check of that value does not report the same again.
-/

namespace InlineMarkers.Validation

/-- The check of the values of one kind: a value and its place may have a diagnostic. -/
abbrev ValueCheck := List Char → Nat → Option Diagnostic

/-- A value that can take the place of a marker's value, and on which a check does not report
a code, wherever the value stands. -/
structure Settles (check : ValueCheck) (kind : MarkerKind) (code : Option DiagnosticCode)
    (value : List Char) : Prop where
  admits : kind.Admits value
  nonempty : value ≠ []
  cleared : ∀ start, ∀ again ∈ check value start, again.code ≠ code

/-- A check that reports the same of a value wherever it stands behind the first character,
up to the place. -/
def Steady (check : ValueCheck) : Prop :=
  ∀ value (near far : Nat) (distance : Int), 1 ≤ near → 1 ≤ far → far = near + distance →
    check value far = (check value near).map (Diagnostic.move distance)

end InlineMarkers.Validation
