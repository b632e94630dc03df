import InlineMarkers.Text.LowerCase

/-!
# Severities

The library reports errors, warnings and suggestions.  Diagnostics from
elsewhere may carry any other word; its rank is that of the severity with the
same name in lower case, or the lowest rank of all.
-/

namespace InlineMarkers

/-- How bad a diagnostic is. -/
inductive Severity where
  | error
  | warning
  | suggestion
  /-- A word that names none of the three. -/
  | other (word : String)
  deriving DecidableEq, Repr

namespace Severity

def word : Severity → String
  | error => "error"
  | warning => "warning"
  | suggestion => "suggestion"
  | other word => word

def ofWord (word : String) : Severity :=
  if word == "error" then error
  else if word == "warning" then warning
  else if word == "suggestion" then suggestion
  else other word

/-- The rank of a word, whatever its case: higher is worse. -/
def rankOfWord (word : List Char) : Nat :=
  let lowered := String.ofList (Text.lower word)
  if lowered == "error" then 3
  else if lowered == "warning" then 2
  else if lowered == "suggestion" then 1
  else 0

def rank (severity : Severity) : Nat :=
  rankOfWord severity.word.toList

@[simp] theorem rank_error : rank .error = 3 := by decide

@[simp] theorem rank_warning : rank .warning = 2 := by decide

@[simp] theorem rank_suggestion : rank .suggestion = 1 := by decide

end Severity

end InlineMarkers
