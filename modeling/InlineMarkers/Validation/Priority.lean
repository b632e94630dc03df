import InlineMarkers.Diagnostic.Basic
import InlineMarkers.Marker.Vocabulary
import InlineMarkers.Settings.MarkerConfig

/-!
# Priorities

A priority must be one of the priority words in any case.  The beginning of such
a word is accepted while it is short enough to be still in the making.
-/

namespace InlineMarkers.Validation

open Text

/-- The priorities offered besides the closest one, each with its description. -/
def commonPriorities : List (String × String) :=
  [("high", "Set to high priority"), ("medium", "Set to medium priority"),
    ("urgent", "Set to urgent status")]

/-- Whether a text is a priority word in lower case. -/
def isPriorityWord (word : List Char) : Bool :=
  priorityWords.any (·.toList == word)

/-- Whether a text is the beginning of a priority word. -/
def startsPriorityWord (word : List Char) : Bool :=
  priorityWords.any fun priority => word.isPrefixOf priority.toList

/-- The quick fix that puts a priority. -/
def priorityFix (priority description : String) : QuickFix :=
  ⟨s!"Use \"{priority}\"", priority.toList, some description⟩

def checkPriority (config : MarkerConfig) (value : List Char) (start : Nat) :
    Option Diagnostic :=
  let lowered := lower value
  if value.isEmpty || isPriorityWord lowered then none
  else if value.length ≤ config.priorityPartialLength ∧ startsPriorityWord lowered then none
  else
    let closest := closestPriority value
    let typed := String.ofList value
    let words := ", ".intercalate priorityWords
    some <| Diagnostic.ofValue .error s!"Invalid priority \"{typed}\". Use one of: {words}."
      start value (some closest.toList) (some .priorityInvalid)
      (some <| "Valid priorities include: critical, high, medium, low, urgent, asap, " ++
        "blocked, waiting, etc.")
      (priorityFix closest s!"Change to {closest}" ::
        commonPriorities.map fun (priority, description) => priorityFix priority description)

end InlineMarkers.Validation
