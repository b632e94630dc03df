import InlineMarkers.Marker.Kind
import InlineMarkers.Text.Blank

/-!
# Markers and their spans

A marker is a piece of a note with a kind and a value.  Its value span lies
inside its marker span, which adds the opening and whatever closes the marker.
Positions are character indices and spans are half open.
-/

namespace InlineMarkers

/-- A marker found in a note. -/
structure Marker where
  kind : MarkerKind
  value : List Char
  /-- Where the value starts. -/
  start : Nat
  /-- Where the value stops. -/
  stop : Nat
  markerStart : Nat
  markerStop : Nat
  deriving DecidableEq, Repr

namespace Marker

/-- The marker moved by a number of characters. -/
def shift (distance : Nat) (marker : Marker) : Marker :=
  { marker with
    start := marker.start + distance
    stop := marker.stop + distance
    markerStart := marker.markerStart + distance
    markerStop := marker.markerStop + distance }

/-- The part of the note that the whole marker covers. -/
def span (marker : Marker) : Nat × Nat :=
  (marker.markerStart, marker.markerStop)

def spans (markers : List Marker) : List (Nat × Nat) :=
  markers.map span

end Marker

/-- Whether the range from `start` to `stop` shares a character position with a span. -/
def overlapsSpan (start stop : Int) (span : Nat × Nat) : Bool :=
  start < span.2 && stop > span.1

def insideAnySpan (start stop : Int) (spans : List (Nat × Nat)) : Bool :=
  spans.any (overlapsSpan start stop)

end InlineMarkers
