import InlineMarkers.Diagnostic.Entry

/-!
# Applying quick fixes

A quick fix is an edit: a range of the buffer and the text that replaces it.  It
is only made from a diagnostic whose range is a proper one of the buffer as it
is now, so a diagnostic of an older buffer does no harm.

A surface is what an edit is applied to.  It may have lost its buffer, and any
of the things that are asked of it may fail; applying a fix then answers that it
was not applied.
-/

namespace InlineMarkers

/-- The replacement of a range of a text. -/
structure Edit where
  start : Nat
  stop : Nat
  replacement : List Char
  deriving DecidableEq, Repr

namespace Edit

def apply (edit : Edit) (text : List Char) : List Char :=
  text.take edit.start ++ edit.replacement ++ text.drop edit.stop

/-- The text that takes the place of an entry's range: the one that is given, or else the
entry's own; null gives none, and neither does what cannot be displayed. -/
def replacement? (entry : DiagnosticEntry) (given : Value) : Option (List Char) :=
  match given with
  | .null => entry.fields.replacement?.toOption.join
  | given => given.display.toOption

/-- The range of an entry in a text of some length, if it is a proper one. -/
def range? (entry : DiagnosticEntry) (length : Nat) : Option (Nat × Nat) :=
  match entry.fields.integerField "start", entry.fields.integerField "end" with
  | .ok start, .ok stop =>
      if 0 ≤ start ∧ start < stop ∧ stop ≤ length then some (start.toNat, stop.toNat) else none
  | _, _ => none

def ofFix? (text : List Char) (entry : DiagnosticEntry) (given : Value) : Option Edit := do
  let replacement ← replacement? entry given
  let (start, stop) ← range? entry text.length
  return ⟨start, stop, replacement⟩

end Edit

inductive SurfaceRequest where
  | isAttached
  | text
  | replace
  | focus
  deriving DecidableEq, Repr

/-- A surface over a plain text. -/
structure PlainSurface where
  text : List Char
  attached : Bool
  /-- How often the surface was focused. -/
  focused : Nat
  /-- The requests that fail. -/
  broken : List SurfaceRequest
  deriving DecidableEq, Repr

namespace PlainSurface

def meets (surface : PlainSurface) (request : SurfaceRequest) : Bool :=
  !surface.broken.contains request

/-- The surface after an edit, and whether the edit went through to the end: the text is
replaced first and the surface focused after that. -/
def perform (surface : PlainSurface) (edit : Edit) : Bool × PlainSurface :=
  if surface.meets .replace then
    let edited := { surface with text := edit.apply surface.text }
    if surface.meets .focus then (true, { edited with focused := edited.focused + 1 })
    else (false, edited)
  else (false, surface)

/-- Applies a quick fix and tells whether it was applied. -/
def applyQuickFix (surface : PlainSurface) (entry : DiagnosticEntry) (given : Value) :
    Bool × PlainSurface :=
  if surface.meets .isAttached && surface.attached && surface.meets .text then
    match Edit.ofFix? surface.text entry given with
    | some edit => surface.perform edit
    | none => (false, surface)
  else (false, surface)

/-- Applies a quick fix to a surface that may be missing. -/
def applyQuickFix? (surface : Option PlainSurface) (entry : DiagnosticEntry) (given : Value) :
    Bool × Option PlainSurface :=
  match surface with
  | none => (false, none)
  | some surface =>
      let (applied, surface) := surface.applyQuickFix entry given
      (applied, some surface)

end PlainSurface

end InlineMarkers
