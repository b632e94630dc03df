import InlineMarkers.Validation.Assignee
import InlineMarkers.Validation.Color
import InlineMarkers.Validation.Date
import InlineMarkers.Validation.Incomplete
import InlineMarkers.Validation.Priority
import InlineMarkers.Validation.Suggestions
import InlineMarkers.Validation.Tag

/-!
# Validating a note

A note is validated in three passes: each marker by the check of its kind, the
markers left open at the end, and the suggestions.  The parts of a validation
are guarded from each other.  A check that fails costs its own diagnostics and
nothing else; only when the markers cannot be found at all, or the passes cannot
be put together, is there nothing to report.

To state what a failure costs, validation takes the set of parts that are out of
order; `validate` is validation with no such part.
-/

namespace InlineMarkers.Validation

open Calendar

/-- The parts of a validation that may fail. -/
inductive CheckPart where
  /-- The check of one kind of markers. -/
  | marker (kind : MarkerKind)
  | incomplete
  | suggestions
  /-- Finding the markers. -/
  | scan
  /-- Putting the passes together. -/
  | collect
  deriving DecidableEq, Repr

/-- The parts that are out of order. -/
abbrev Faults := CheckPart → Bool

def noFaults : Faults := fun _ => false

/-- The outcome of a part, which is a failure when the part is out of order. -/
def Faults.run {α : Type} (faults : Faults) (part : CheckPart)
    (outcome : Except CheckFailure α) : Except CheckFailure α :=
  if faults part then .error .broken else outcome

/-- The outcome of a guarded part: what it found, or nothing if it failed. -/
def guarded {α : Type} (outcome : Except CheckFailure (List α)) : List α :=
  match outcome with
  | .ok found => found
  | .error _ => []

def checkValue (config : MarkerConfig) (today : Date) (kind : MarkerKind) (value : List Char)
    (start : Nat) : Except CheckFailure (Option Diagnostic) :=
  match kind with
  | .tag => .ok (checkTag config value start)
  | .color => .ok (checkColor value start)
  | .priority => .ok (checkPriority config value start)
  | .date => checkDate config today value start
  | .assignee => .ok (checkAssignee config value start)

/-- The diagnostic for a value, none if the check fails. -/
def diagnose (faults : Faults) (config : MarkerConfig) (today : Date) (kind : MarkerKind)
    (value : List Char) (start : Nat) : Option Diagnostic :=
  match faults.run (.marker kind) (checkValue config today kind value start) with
  | .ok found => found
  | .error _ => none

def validateMarker (faults : Faults) (config : MarkerConfig) (today : Date) (marker : Marker) :
    Option Diagnostic :=
  diagnose faults config today marker.kind marker.value marker.start

/-- The diagnostics for the markers of a note; a note of one character has no marker worth
a check. -/
def validateMarkers (faults : Faults) (config : MarkerConfig) (today : Date)
    (text : List Char) (markers : List Marker) : List Diagnostic :=
  if text.length ≤ 1 then [] else markers.filterMap (validateMarker faults config today)

def collect (faults : Faults) (config : MarkerConfig) (today : Date) (text : List Char) :
    Except CheckFailure (List Diagnostic) :=
  faults.run .collect <| do
    let markers ← faults.run .scan (.ok (scan config.tagScanLimit text))
    return validateMarkers faults config today text markers ++
      guarded (faults.run .incomplete (.ok (findIncomplete config text))) ++
      guarded (faults.run .suggestions (.ok (findSuggestions config text markers)))

/-- The diagnostics for a note when some parts are out of order: none when the note is empty,
too long, or not to be checked, and only those whose range lies in the note. -/
def validateWith (faults : Faults) (config : MarkerConfig) (today : Date) (text : List Char) :
    List Diagnostic :=
  if text.isEmpty || !config.enabled || config.maxNoteLength < text.length then []
  else (guarded (collect faults config today text)).filter (·.fits text.length)

def validate (config : MarkerConfig) (today : Date) (text : List Char) : List Diagnostic :=
  validateWith noFaults config today text

end InlineMarkers.Validation
