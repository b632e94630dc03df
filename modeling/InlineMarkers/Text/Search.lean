/-!
# Searching a text for a pattern

A pattern looks at one place of a text: it is given the characters before the
place, the nearest one first, and the text from the place on, and answers with
the part of that text that it matches there, if it does.  `first?` gives the
first place at which a pattern matches and `all` every match after the end of
the one before it.
-/

namespace InlineMarkers.Text

/-- What a pattern matches at a place: the characters before it reversed, then the rest. -/
abbrev Pattern := List Char → List Char → Option (List Char)

/-- A match: where it starts and the text that it covers. -/
structure Found where
  position : Nat
  text : List Char
  deriving DecidableEq, Repr

namespace Found

def stop (found : Found) : Nat :=
  found.position + found.text.length

end Found

namespace Pattern

/-- The first match at or after a place. -/
def firstFrom? (pattern : Pattern) : List Char → List Char → Option Found
  | before, [] => (pattern before []).map fun text => ⟨before.length, text⟩
  | before, c :: rest =>
      match pattern before (c :: rest) with
      | some text => some ⟨before.length, text⟩
      | none => firstFrom? pattern (c :: before) rest

def first? (pattern : Pattern) (text : List Char) : Option Found :=
  firstFrom? pattern [] text

/-- The matches after a place, of which the first `skip` characters belong to the match
before it. -/
def allFrom (pattern : Pattern) : Nat → List Char → List Char → List Found
  | _, _, [] => []
  | skip + 1, before, c :: rest => allFrom pattern skip (c :: before) rest
  | 0, before, c :: rest =>
      match pattern before (c :: rest) with
      | some text => ⟨before.length, text⟩ :: allFrom pattern (text.length - 1) (c :: before) rest
      | none => allFrom pattern 0 (c :: before) rest

/-- All matches in a text, none of which overlaps another; only nonempty ones are wanted. -/
def all (pattern : Pattern) (text : List Char) : List Found :=
  allFrom pattern 0 [] text

theorem all_nil (pattern : Pattern) : pattern.all [] = [] := rfl

end Pattern

end InlineMarkers.Text
