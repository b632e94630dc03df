import InlineMarkers.Diagnostic.Entry
import InlineMarkers.Editor.QuickFix
import InlineMarkers.Settings.MarkerConfig
import InlineMarkers.Text.Units

/-!
# Underlining diagnostics

Every diagnostic with a proper range is underlined in the colour of its
severity: suggestions by dots, all else by a wave over a faint background.  The
worst diagnostics are drawn last, so that they stay on top.
-/

namespace InlineMarkers

open Text

inductive UnderlineStyle where
  | wave
  | dot
  deriving DecidableEq, Repr

/-- An underlined range in UTF-16 units. -/
structure Decoration where
  start : Nat
  stop : Nat
  style : UnderlineStyle
  color : List Char
  /-- The colour behind the text and its opacity. -/
  background : Option (List Char × Nat)
  deriving DecidableEq, Repr

/-- A diagnostic as far as decorations need it. -/
structure DecoratedRange where
  rank : Nat
  start : Nat
  stop : Nat
  severity : List Char
  deriving DecidableEq, Repr

namespace Value

/-- The severity of a diagnostic as it is shown: in lower case, and a warning if there is
none. -/
def shownSeverity (diagnostic : Value) : Except SpellingError (List Char) :=
  let severity := diagnostic.field "severity"
  if severity.isTrue then severity.display.map lower else .ok (lower "warning".toList)

end Value

namespace DecoratedRange

/-- The range of an entry in a text of some length, if it is a proper one.  The severity of an
entry without a proper range does not matter. -/
def ofEntry? (length : Nat) (entry : DiagnosticEntry) :
    Except SpellingError (Option DecoratedRange) :=
  match Edit.range? entry length with
  | none => .ok none
  | some (start, stop) =>
      entry.fields.shownSeverity.map fun severity =>
        some ⟨Severity.rankOfWord severity, start, stop, severity⟩

/-- Whether a range is drawn no later than another one: by rank, then by start. -/
def drawnBefore (left right : DecoratedRange) : Bool :=
  left.rank < right.rank || (left.rank == right.rank && left.start ≤ right.start)

def decorate (config : MarkerConfig) (text : List Char) (range : DecoratedRange) : Decoration :=
  let color := config.colorFor range.severity
  let dotted := range.severity == "suggestion".toList
  { start := unitOffset text range.start
    stop := unitOffset text range.stop
    style := if dotted then .dot else .wave
    color
    background := if dotted then none else some (color, 28) }

end DecoratedRange

/-- The decorations of a text for a list of entries, in the order in which they are drawn. -/
def decorations (config : MarkerConfig) (text : List Char) (entries : List DiagnosticEntry) :
    Except SpellingError (List Decoration) := do
  let ranges ← entries.mapM (DecoratedRange.ofEntry? text.length)
  return ((ranges.filterMap id).mergeSort DecoratedRange.drawnBefore).map
    (DecoratedRange.decorate config text)

/-- The decorations of a text for diagnostics of the library's own, whose severities can always
be displayed. -/
def Diagnostic.decorations (config : MarkerConfig) (text : List Char)
    (diagnostics : List Diagnostic) : List Decoration :=
  match InlineMarkers.decorations config text (diagnostics.map .diagnostic) with
  | .ok found => found
  | .error _ => []

end InlineMarkers
