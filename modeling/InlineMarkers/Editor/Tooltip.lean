import InlineMarkers.Editor.Decoration

/-!
# The tooltip

The tooltip lists diagnostics, at most three of them in full, each with a hint
and at most three buttons for its fixes, and counts the others.  It accepts
entries of any origin.  Its rows keep the colours that they were made with.
-/

namespace InlineMarkers

structure FixButton where
  label : List Char
  /-- What shows when the mouse rests on the button; empty for nothing. -/
  toolTip : List Char
  replacement : List Char
  deriving DecidableEq, Repr

structure TooltipRow where
  entry : DiagnosticEntry
  head : List Char
  color : List Char
  /-- The line below the head; empty for none. -/
  detail : List Char
  buttons : List FixButton
  deriving Repr

namespace TooltipRow

def icon (severity : List Char) : Char :=
  if severity == "error".toList then '✖'
  else if severity == "suggestion".toList then 'ℹ'
  else '⚠'

/-- The button for a fix; a fix without a replacement has none. -/
def button? (fix : Value) : Except SpellingError (Option FixButton) :=
  match fix.field "replacement_text" with
  | .null => .ok none
  | replacement => do
      let label := fix.field "label"
      let label ← (if label.isTrue then label else replacement).display
      let toolTip ← (fix.field "description").displayIfTrue
      let replacement ← replacement.display
      return some { label, toolTip, replacement }

/-- The buttons for some fixes, of which only the first three can have one. -/
def buttonsOf (fixes : List Value) : Except SpellingError (List FixButton) :=
  ((fixes.take 3).mapM button?).map (·.filterMap id)

/-- The fixes that are offered for a diagnostic with some fixes of its own: those, or else its
suggestion. -/
def offeredFixes (diagnostic : Value) (own : List Value) : Except SpellingError (List Value) := do
  let suggestion := diagnostic.field "suggested_replacement"
  if own.isEmpty && suggestion.isTrue then
    let word ← suggestion.display
    return [.object [("label", .text (String.ofList ("Use ".toList ++ word))),
      ("replacement_text", suggestion)]]
  else return own

/-- The line below the head: the hint, or else the suggestion. -/
def detailOf (diagnostic : Value) : Except SpellingError (List Char) :=
  let hint := diagnostic.field "hint"
  let suggestion := diagnostic.field "suggested_replacement"
  if hint.isTrue then hint.display
  else if suggestion.isTrue then suggestion.display.map ("Try: ".toList ++ ·)
  else .ok []

/-- The row of an entry. -/
def ofEntry (config : MarkerConfig) (entry : DiagnosticEntry) : Except EntryError TooltipRow := do
  let diagnostic := entry.fields
  let severity ← diagnostic.shownSeverity
  let message ← (diagnostic.field "message").displayIfTrue
  let own ← (diagnostic.field "quick_fixes").items
  let detail ← detailOf diagnostic
  let offered ← offeredFixes diagnostic own
  let buttons ← buttonsOf offered
  return {
    entry
    head := icon severity :: ' ' :: ' ' :: message
    color := config.colorFor severity
    detail
    buttons }

end TooltipRow

structure Tooltip where
  config : MarkerConfig
  entries : List DiagnosticEntry
  rows : List TooltipRow
  visible : Bool
  deriving Repr

namespace Tooltip

def ofConfig (config : MarkerConfig) : Tooltip :=
  ⟨config, [], [], false⟩

def maxRows : Nat := 3

/-- The tooltip with other entries, as visible as before. -/
def setEntries (tooltip : Tooltip) (entries : List DiagnosticEntry) :
    Except EntryError Tooltip :=
  ((entries.take maxRows).mapM (TooltipRow.ofEntry tooltip.config)).map fun rows =>
    { tooltip with entries, rows }

/-- The tooltip with other entries, visible if there are any. -/
def showEntries (tooltip : Tooltip) (entries : List DiagnosticEntry) :
    Except EntryError Tooltip :=
  (tooltip.setEntries entries).map fun tooltip => { tooltip with visible := !entries.isEmpty }

/-- The row of a diagnostic of the library's own, which always has one. -/
def diagnosticRow (config : MarkerConfig) (diagnostic : Diagnostic) : Option TooltipRow :=
  match TooltipRow.ofEntry config (.diagnostic diagnostic) with
  | .ok row => some row
  | .error _ => none

/-- The tooltip with diagnostics of the library's own, visible if there are any. -/
def showDiagnostics (tooltip : Tooltip) (diagnostics : List Diagnostic) : Tooltip :=
  { tooltip with
    entries := diagnostics.map .diagnostic
    rows := (diagnostics.take maxRows).filterMap (diagnosticRow tooltip.config)
    visible := !diagnostics.isEmpty }

def hide (tooltip : Tooltip) : Tooltip :=
  { tooltip with visible := false }

/-- The tooltip with other settings, which its next rows will use. -/
def updateSettings (tooltip : Tooltip) (config : MarkerConfig) : Tooltip :=
  { tooltip with config }

def hiddenCount (tooltip : Tooltip) : Nat :=
  tooltip.entries.length - maxRows

/-- What is said about the diagnostics without a row; empty for nothing. -/
def moreText (tooltip : Tooltip) : String :=
  let count := tooltip.hiddenCount
  if count = 0 then ""
  else if count = 1 then "+1 more issue"
  else s!"+{count} more issues"

/-- The buttons of all rows, each with the place of its row. -/
def buttons (tooltip : Tooltip) : List (Nat × TooltipRow × FixButton) :=
  (tooltip.rows.zipIdx).flatMap fun (row, place) =>
    row.buttons.map fun button => (place, row, button)

/-- The place of the first entry that is the same as the one at a place. -/
def firstSame (tooltip : Tooltip) (place : Nat) (row : TooltipRow) : Nat :=
  ((tooltip.entries.take place).findIdx? (·.same row.entry)).getD place

end Tooltip

end InlineMarkers
