import InlineMarkers.Diagnostic.Code
import InlineMarkers.Diagnostic.Severity
import InlineMarkers.Value.Numeral

/-!
# Diagnostics

A diagnostic points at a range of a note and says what is wrong there.  It may
carry quick fixes, each a text to put in the place of the range.  No two quick
fixes of one diagnostic have the same text: the first one offered stays.
-/

namespace InlineMarkers

/-- A text that may replace the range of a diagnostic. -/
structure QuickFix where
  /-- What the button says. -/
  label : String
  replacement : List Char
  /-- What the button's tool tip says. -/
  description : Option String
  deriving DecidableEq, Repr

/-- A remark about a range of a note. -/
structure Diagnostic where
  severity : Severity
  message : String
  start : Int
  stop : Int
  suggestion : Option (List Char)
  code : Option DiagnosticCode
  hint : Option String
  fixes : List QuickFix
  deriving DecidableEq, Repr

namespace QuickFix

/-- The fixes of a list whose replacement is neither seen already nor offered by an earlier
one of the list. -/
def distinctFrom (seen : List (List Char)) : List QuickFix → List QuickFix
  | [] => []
  | fix :: rest =>
      if seen.contains fix.replacement then distinctFrom seen rest
      else fix :: distinctFrom (fix.replacement :: seen) rest

def distinct (fixes : List QuickFix) : List QuickFix :=
  distinctFrom [] fixes

/-- The fix as an object; a description is left out when there is none to show. -/
def toValue (fix : QuickFix) : Value :=
  let base := [("label", Value.text fix.label),
    ("replacement_text", Value.text (String.ofList fix.replacement))]
  match fix.description with
  | none => .object base
  | some description =>
      .object (if description == "" then base else base ++ [("description", .text description)])

end QuickFix

namespace Diagnostic

/-- A diagnostic for a value that stands at `start`; its range is the value's. -/
def ofValue (severity : Severity) (message : String) (start : Int) (value : List Char)
    (suggestion : Option (List Char)) (code : Option DiagnosticCode) (hint : Option String)
    (fixes : List QuickFix) : Diagnostic where
  severity
  message
  start
  stop := start + value.length
  suggestion
  code
  hint
  fixes := QuickFix.distinct fixes

def length (diagnostic : Diagnostic) : Int :=
  diagnostic.stop - diagnostic.start

/-- Whether the range is not empty and lies in a text of the given length. -/
def fits (diagnostic : Diagnostic) (textLength : Int) : Bool :=
  0 ≤ diagnostic.start && diagnostic.start < diagnostic.stop && diagnostic.stop ≤ textLength

/-- Whether the range fits a length of unknown shape.  The length only matters when the
range is a proper one. -/
def fitsValue (diagnostic : Diagnostic) (textLength : Value) : Except NumeralError Bool :=
  if 0 ≤ diagnostic.start ∧ diagnostic.start < diagnostic.stop then
    textLength.toInteger.map fun length => decide (diagnostic.stop ≤ length)
  else .ok false

/-- The replacement to offer first: the first quick fix's, or else the suggestion. -/
def primaryReplacement (diagnostic : Diagnostic) : Option (List Char) :=
  match diagnostic.fixes with
  | fix :: _ => some fix.replacement
  | [] => diagnostic.suggestion

/-- The diagnostic as an object; what there is nothing to show of is left out. -/
def toValue (diagnostic : Diagnostic) : Value :=
  let nonempty (name : String) (text : Option String) : Members :=
    match text with
    | none => []
    | some text => if text == "" then [] else [(name, .text text)]
  .object <|
    [("severity", .text diagnostic.severity.word), ("message", .text diagnostic.message),
      ("start", .int diagnostic.start), ("end", .int diagnostic.stop)] ++
    (match diagnostic.suggestion with
      | none => []
      | some text => [("suggested_replacement", .text (String.ofList text))]) ++
    nonempty "code" (diagnostic.code.map (·.text)) ++
    nonempty "hint" diagnostic.hint ++
    (if diagnostic.fixes.isEmpty then []
      else [("quick_fixes", .array (diagnostic.fixes.map QuickFix.toValue))])

@[simp] theorem start_ofValue (severity message start value suggestion code hint fixes) :
    (ofValue severity message start value suggestion code hint fixes).start = start := rfl

@[simp] theorem stop_ofValue (severity message start value suggestion code hint fixes) :
    (ofValue severity message start value suggestion code hint fixes).stop =
      start + value.length := rfl

/-- Diagnostics whose range holds a position or stops right at it, the worst ones first and
among those the ones that start first. -/
def atPosition (diagnostics : List Diagnostic) (position : Int) : List Diagnostic :=
  (diagnostics.filter fun d => d.start ≤ position && position ≤ d.stop).mergeSort fun left right =>
    right.severity.rank < left.severity.rank ||
      (left.severity.rank == right.severity.rank && left.start ≤ right.start)

end Diagnostic

end InlineMarkers
