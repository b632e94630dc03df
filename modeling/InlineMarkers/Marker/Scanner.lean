import InlineMarkers.Marker.Lexeme

/-!
# Scanning a note for markers

The scanner walks a note with one cursor.  At each step it takes the first
lexeme at or after the cursor.  Tags are read as lexemes only up to a limit, so
an opening bracket may stand before that lexeme without having been read; such
a bracket is closed at the next closing bracket, however far away, and the whole
is one tag.  When a bracket turns out to have no closing bracket after it, no
later bracket has one either, and the scanner stops looking for them.

`Scan.step` is one turn of the walk and `scan` its repetition.
-/

namespace InlineMarkers

open Text

/-- How far a scan has come. -/
structure Scan where
  position : Nat
  /-- The text from the cursor on. -/
  rest : List Char
  /-- The first opening bracket at or after the cursor when it was last looked up. -/
  bracket : Option Nat
  /-- Whether an opening bracket may still have a closing bracket after it. -/
  closable : Bool
  deriving DecidableEq, Repr

namespace Scan

/-- The position of the first opening bracket in a text that stands at `position`. -/
def firstBracket (position : Nat) (text : List Char) : Option Nat :=
  (text.findIdx? (· == '[')).map (position + ·)

def start (text : List Char) : Scan :=
  ⟨0, text, firstBracket 0 text, true⟩

/-- The cursor moved forward to a later position. -/
def moveTo (state : Scan) (position : Nat) : Scan :=
  { state with position, rest := state.rest.drop (position - state.position) }

/-- The scan with an opening bracket that is not behind the cursor. -/
def refreshBracket (state : Scan) : Scan :=
  match state.bracket with
  | some bracket =>
      if bracket < state.position then
        { state with bracket := firstBracket state.position state.rest }
      else state
  | none => state

/-- The tag that an opening bracket starts, however long it is. -/
def longTag? (state : Scan) (bracket : Nat) : Option Marker :=
  let inside := state.rest.drop (bracket + 1 - state.position)
  if inside.contains ']' then
    some ((⟨.tag, 1, inside.takeWhile (· != ']'), 1⟩ : Lexeme).toMarker bracket)
  else none

/-- What follows the first lexeme: the cursor behind it, and its marker if it is reported. -/
def takeLexeme (state : Scan) : Option (Nat × Lexeme) → Option (Option Marker × Scan)
  | none => none
  | some (position, lexeme) =>
      some (if lexeme.isReported then some (lexeme.toMarker position) else none,
        state.moveTo (position + lexeme.length))

/-- The opening bracket that the first lexeme leaves behind it. -/
def skippedBracket? (state : Scan) (found : Option (Nat × Lexeme)) : Option Nat :=
  if state.closable then
    state.bracket.filter fun bracket => found.all fun (position, _) => bracket < position
  else none

/-- One turn of the scan: the marker it reports, if any, and the scan after it. -/
def step (limit : Nat) (state : Scan) : Option (Option Marker × Scan) :=
  let found := Lexeme.firstFrom? limit state.position state.rest
  let state := state.refreshBracket
  match state.skippedBracket? found with
  | none => state.takeLexeme found
  | some bracket =>
      match state.longTag? bracket with
      | some tag => some (some tag, state.moveTo tag.markerStop)
      | none => { state with closable := false }.takeLexeme found

/-- The markers that at most `turns` turns of a scan report. -/
def run (limit : Nat) : Nat → Scan → List Marker
  | 0, _ => []
  | turns + 1, state =>
      match state.rest with
      | [] => []
      | _ :: _ =>
          match state.step limit with
          | none => []
          | some (marker, next) => marker.toList ++ run limit turns next

end Scan

/-- The number of characters up to which a tag is read in one piece, if nothing else is said. -/
def usualTagLimit : Nat := 500

/-- The markers of a note in their order.  Each turn of the scan moves the cursor, so there
are at most as many turns as there are characters. -/
def scan (limit : Nat) (text : List Char) : List Marker :=
  Scan.run limit text.length (Scan.start text)

end InlineMarkers
