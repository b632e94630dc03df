import InlineMarkers.Editor.QuickFix
import InlineMarkers.Text.Units

/-!
# The document of the editor

The editor keeps its text in UTF-16 units and has a cursor among them.  An edit
made elsewhere in the document moves the cursor along: a cursor inside the
replaced range comes to lie behind the new text, as does one at its start, and
one after it is shifted.

The library makes its edits in characters; `replace` turns them into units and
leaves the cursor behind the new text.
-/

namespace InlineMarkers

open Text

/-- A text in UTF-16 units, with a cursor. -/
structure Document where
  units : List Nat
  position : Nat
  deriving DecidableEq, Repr

namespace Document

def empty : Document :=
  ⟨[], 0⟩

def text (document : Document) : List Char :=
  ofUnits document.units

def cursorIndex (document : Document) : Nat :=
  indexOfUnit document.text document.position

/-- The document with another text and the cursor in front of it. -/
def setText (text : List Char) : Document :=
  ⟨toUnits text, 0⟩

def insert (document : Document) (text : List Char) : Document :=
  let inserted := toUnits text
  ⟨document.units.take document.position ++ inserted ++ document.units.drop document.position,
    document.position + inserted.length⟩

/-- The document with its cursor elsewhere, unless that is outside the text. -/
def moveCursor (document : Document) (position : Int) : Document :=
  if 0 ≤ position ∧ position ≤ document.units.length then
    { document with position := position.toNat }
  else document

/-- Where a cursor comes to lie when a range is replaced by so many units. -/
def cursorAfter (position start stop inserted : Nat) : Nat :=
  if stop < position then position - (stop - start) + inserted
  else if start ≤ position then start + inserted
  else position

/-- The document with a range of units replaced, the cursor moved along. -/
def replaceUnits (document : Document) (start stop : Nat) (text : List Char) : Document :=
  let inserted := toUnits text
  ⟨document.units.take start ++ inserted ++ document.units.drop stop,
    cursorAfter document.position start stop inserted.length⟩

def perform (document : Document) (edit : Edit) : Document :=
  let text := document.text
  document.replaceUnits (unitOffset text edit.start) (unitOffset text edit.stop) edit.replacement

/-- The document with the cursor behind the new text of an edit that was made in `before`. -/
def moveBehind (document before : Document) (edit : Edit) : Document :=
  { document with
    position := unitOffset before.text edit.start + (toUnits edit.replacement).length }

/-- The document with an edit made and the cursor behind the new text. -/
def replace (document : Document) (edit : Edit) : Document :=
  (document.perform edit).moveBehind document edit

end Document

end InlineMarkers
