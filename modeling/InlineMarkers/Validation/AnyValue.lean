import InlineMarkers.Validation.Note

/-!
# Validating values of unknown shape

A marker may come from outside, with a kind, a value and a start of any shape.
What is not a text counts as the empty text, and a start that is no integer as
zero; a marker of an unknown kind has no diagnostic.
-/

namespace InlineMarkers.Validation

open Calendar

/-- A marker from outside, as far as its validation needs it. -/
structure GivenMarker where
  kind : Value
  value : Value
  start : Value
  deriving Repr

/-- The diagnostic for a value of a kind, both from outside. -/
def diagnoseValue (config : MarkerConfig) (today : Date) (kind : MarkerKind)
    (value start : Value) : Option Diagnostic :=
  diagnose noFaults config today kind value.asText start.asOffset

def validateGiven (config : MarkerConfig) (today : Date) (marker : GivenMarker) :
    Option Diagnostic :=
  match marker.kind with
  | .text name =>
      (MarkerKind.ofName? name).bind fun kind =>
        diagnoseValue config today kind marker.value marker.start
  | _ => none

/-- The diagnostics for the markers of a text, which are found by a scan if none are given. -/
def validateMarkersValue (config : MarkerConfig) (today : Date) (text : Value)
    (markers : Option (List GivenMarker)) : List Diagnostic :=
  match markers with
  | none =>
      validateMarkers noFaults config today text.asText (scan config.tagScanLimit text.asText)
  | some markers =>
      if text.asText.length ≤ 1 then [] else markers.filterMap (validateGiven config today)

/-- The diagnostics for a note of unknown shape. -/
def validateValue (faults : Faults) (config : MarkerConfig) (today : Date) (text : Value) :
    List Diagnostic :=
  validateWith faults config today text.asText

/-- The warnings about what a note of unknown shape leaves open. -/
def findIncompleteValue (config : MarkerConfig) (text : Value) : List Diagnostic :=
  findIncomplete config text.asText

/-- The suggestions for a note of unknown shape. -/
def findSuggestionsValue (config : MarkerConfig) (text : Value) : List Diagnostic :=
  findSuggestions config text.asText (scan config.tagScanLimit text.asText)

end InlineMarkers.Validation
