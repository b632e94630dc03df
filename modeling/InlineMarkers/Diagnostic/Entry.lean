import InlineMarkers.Diagnostic.Basic
import InlineMarkers.Value.Display
import InlineMarkers.Value.Equality

/-!
# Diagnostics of unknown origin

Whatever shows diagnostics or applies their fixes accepts more than the
library's own: an object with some of the same fields, or any other value, which
then has no fields.  A `DiagnosticEntry` is such a thing, and its fields are
values of unknown shape.
-/

namespace InlineMarkers

/-- A diagnostic, or any value that is given in the place of one. -/
inductive DiagnosticEntry where
  | diagnostic (value : Diagnostic)
  | foreign (value : Value)
  deriving Repr

/-- Why a field of an entry cannot be used. -/
inductive EntryError where
  /-- A value was to be gone through item by item but has no items. -/
  | notIterable
  /-- A value was to be displayed but cannot be written as text. -/
  | undisplayable (cause : SpellingError)
  deriving DecidableEq, Repr

instance : MonadLift (Except SpellingError) (Except EntryError) where
  monadLift := Except.mapError .undisplayable

namespace QuickFix

def fields (fix : QuickFix) : Value :=
  .object [("label", .text fix.label),
    ("replacement_text", .text (String.ofList fix.replacement)),
    ("description", Value.ofText? (fix.description.map String.toList))]

end QuickFix

namespace Diagnostic

def fields (diagnostic : Diagnostic) : Value :=
  .object [("severity", .text diagnostic.severity.word), ("message", .text diagnostic.message),
    ("start", .int diagnostic.start), ("end", .int diagnostic.stop),
    ("suggested_replacement", Value.ofText? diagnostic.suggestion),
    ("code", Value.ofText? (diagnostic.code.map (·.text.toList))),
    ("hint", Value.ofText? (diagnostic.hint.map String.toList)),
    ("quick_fixes", .array (diagnostic.fixes.map QuickFix.fields))]

/-- Whether one of the entries is an error of the library's own. -/
def hasErrors (entries : List DiagnosticEntry) : Bool :=
  entries.any fun
    | .diagnostic value => value.severity == .error
    | .foreign _ => false

end Diagnostic

namespace Value

/-- A field of an object; null if the value has no such field. -/
def field (value : Value) (name : String) : Value :=
  (value.member? name).getD null

/-- The items that a value has: those of an array, the characters of a text, the names of an
object.  A value that counts as false has none; a number or a truth value cannot be gone
through. -/
def items (value : Value) : Except EntryError (List Value) :=
  match value with
  | array items => .ok items
  | text value => .ok (value.toList.map fun c => text (String.ofList [c]))
  | object members => .ok (members.map fun member => text member.1)
  | value => if value.isTrue then .error .notIterable else .ok []

def severityRank (value : Value) : Except SpellingError Nat :=
  value.displayIfTrue.map Severity.rankOfWord

/-- An integer field; a field that is missing counts as minus one. -/
def integerField (value : Value) (name : String) : Except NumeralError Int :=
  ((value.member? name).getD (int (-1))).toInteger

/-- The text that replaces the range of a diagnostic: its suggestion, or else the
replacement of the first fix that has one. -/
def replacement? (diagnostic : Value) : Except EntryError (Option (List Char)) :=
  match diagnostic.field "suggested_replacement" with
  | null => do
      let fixes ← (diagnostic.field "quick_fixes").items
      match fixes.find? fun fix => !(fix.field "replacement_text").isNull with
      | none => return none
      | some fix => return some (← (fix.field "replacement_text").display)
  | suggestion => do return some (← suggestion.display)

end Value

namespace DiagnosticEntry

def fields : DiagnosticEntry → Value
  | diagnostic value => value.fields
  | foreign value => value

/-- Whether two entries are the same: diagnostics with the same fields, or values that denote
the same thing. -/
def same : DiagnosticEntry → DiagnosticEntry → Bool
  | diagnostic left, diagnostic right => left == right
  | foreign left, foreign right => left.same right
  | _, _ => false

def diagnostics (entries : List DiagnosticEntry) : List Diagnostic :=
  entries.filterMap fun
    | diagnostic value => some value
    | foreign _ => none

/-- The worst of the best severity so far and the one of an entry, as it is displayed. -/
def worseSeverity (best : Option (List Char)) (entry : DiagnosticEntry) :
    Except SpellingError (Option (List Char)) :=
  match entry.fields.field "severity", best with
  | .null, best => .ok best
  | severity, none => severity.display.map some
  | severity, some word => do
      if Severity.rankOfWord word < (← severity.severityRank) then severity.display.map some
      else return some word

/-- The worst severity among the entries that have one, the first of those that are equally
bad, as it is displayed. -/
def highestSeverity (entries : List DiagnosticEntry) :
    Except SpellingError (Option (List Char)) :=
  entries.foldlM worseSeverity none

end DiagnosticEntry

end InlineMarkers
