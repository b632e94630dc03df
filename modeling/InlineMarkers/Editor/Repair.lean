import InlineMarkers.Editor.QuickFix
import InlineMarkers.Validation.Note

/-!
# Repairing a note

A note is repaired by validating it, applying a fix of the first diagnostic that
has one, and starting over, for a number of rounds or until there is nothing
left to fix.
-/

namespace InlineMarkers

open Calendar Validation

structure RepairRound where
  text : List Char
  diagnostics : List Diagnostic
  /-- Whether a fix was applied; none if there was nothing to fix. -/
  applied : Option Bool
  deriving DecidableEq, Repr

namespace RepairRound

/-- The replacement that is picked among the fixes of a diagnostic: the one with a number,
counted round the list, or the one that the diagnostic prefers, which null stands for. -/
def pickReplacement (diagnostic : Diagnostic) (pick : Option Int) : Value :=
  match pick with
  | none => .null
  | some pick =>
      match diagnostic.fixes[(pick % diagnostic.fixes.length).toNat]? with
      | some fix => .text (String.ofList fix.replacement)
      | none => .null

/-- The first diagnostic that has something to offer. -/
def firstFixable? (diagnostics : List Diagnostic) : Option Diagnostic :=
  diagnostics.find? (·.primaryReplacement.isSome)

def run (config : MarkerConfig) (today : Date) (pick : Option Int) :
    Nat → List Char → List RepairRound
  | 0, _ => []
  | rounds + 1, text =>
      let diagnostics := validate config today text
      match firstFixable? diagnostics with
      | none => [⟨text, diagnostics, none⟩]
      | some diagnostic =>
          let (applied, surface) :=
            (⟨text, true, 0, []⟩ : PlainSurface).applyQuickFix (.diagnostic diagnostic)
              (pickReplacement diagnostic pick)
          ⟨text, diagnostics, some applied⟩ :: run config today pick rounds surface.text

end RepairRound

end InlineMarkers
