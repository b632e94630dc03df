import InlineMarkers.Diagnostic.Basic
import InlineMarkers.Settings.MarkerConfig

/-!
# Assignees

A user name starts with a letter and goes on with letters, digits, dots,
underscores and hyphens, all of them ASCII, and should not be too long.  A name
of a few letters is not checked yet.
-/

namespace InlineMarkers.Validation

open Text

/-- A character that a user name may hold after its first one. -/
def isUserNameCharacter (c : Char) : Bool :=
  c.isAlphanum || c == '.' || c == '_' || c == '-'

/-- Whether a text is a user name; one final line break is ignored. -/
def isUserName (value : List Char) : Bool :=
  match withoutFinalBreak value with
  | first :: rest => first.isAlpha && rest.all isUserNameCharacter
  | [] => false

/-- The user name closest to a text: its allowed characters from the first letter on, in
lower case. -/
def sanitizeAssignee (value : List Char) : List Char :=
  match (value.filter isUserNameCharacter).dropWhile (!Char.isAlpha ·) with
  | [] => "user".toList
  | cleaned => lower cleaned

def checkAssignee (config : MarkerConfig) (value : List Char) (start : Nat) :
    Option Diagnostic :=
  if value.isEmpty then none
  else if value.length ≤ config.assigneePartialLength ∧ value.all Char.isAlpha then none
  else if !isUserName value then
    let fixed := sanitizeAssignee value
    let shown := String.ofList fixed
    some <| Diagnostic.ofValue .error
      ("Invalid assignee format. Must start with letter and contain only letters, numbers, " ++
        "dots, underscores, or hyphens.")
      start value (some fixed) (some .assigneeInvalidFormat)
      (some "Use +username (e.g., +alice, +dev.ops)")
      [⟨s!"Use +{shown}", fixed, some "Remove characters that are not allowed"⟩]
  else if config.maxAssigneeLength < value.length then
    let limit := config.maxAssigneeLength
    let truncated := value.take limit
    some <| Diagnostic.ofValue .warning s!"Assignee name is longer than {limit} characters."
      start value (some truncated) (some .assigneeTooLong)
      (some s!"Usernames are at most {limit} characters")
      [⟨"Shorten name", truncated, some s!"Truncate to {limit} characters"⟩]
  else none

end InlineMarkers.Validation
