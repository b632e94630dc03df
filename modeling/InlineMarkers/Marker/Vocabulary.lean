import InlineMarkers.Text.Blank
import InlineMarkers.Text.LowerCase

/-!
# Fixed vocabularies

The words that dates and priorities may use.  The order of the priority words
matters: messages list them in it, and a misspelt priority is replaced by the
first word that starts with the same letter.
-/

namespace InlineMarkers

open Text

def dateKeywords : List String :=
  ["today", "tomorrow", "yesterday", "monday", "tuesday", "wednesday", "thursday", "friday",
    "saturday", "sunday", "week", "month", "next", "last"]

/-- Whether a text is a date keyword, whatever its case and the blanks around it. -/
def isDateKeyword (text : List Char) : Bool :=
  let word := lower (trim text)
  dateKeywords.any (·.toList == word)

def priorityWords : List String :=
  ["critical", "high", "medium", "low", "urgent", "asap", "blocked", "waiting", "review",
    "done", "todo", "next", "later"]

/-- Words often used for a priority, with the priority that each one means. -/
def priorityAliases : List (String × String) :=
  [("normal", "medium"), ("regular", "medium"), ("important", "high"), ("immediate", "urgent"),
    ("someday", "later")]

/-- The priority proposed when nothing is known of the word that was typed. -/
def usualPriority : String :=
  "medium"

/-- The priority that a word most likely means: an alias's, or the first one with the
same first letter, or the usual one. -/
def closestPriority (word : List Char) : String :=
  let lowered := lower word
  match priorityAliases.find? (·.1.toList == lowered) with
  | some (_, priority) => priority
  | none =>
      match lowered with
      | [] => usualPriority
      | first :: _ =>
          (priorityWords.find? (·.toList.head? == some first)).getD usualPriority

end InlineMarkers
