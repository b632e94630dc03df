import InlineMarkers.Marker.Basic

/-!
# Lexemes

A lexeme is what one marker looks like where it stands: so many characters
before the value, the value, and so many after it.  `Lexeme.at?` reads the one
that starts a text, if there is one.  A tag is only read when it closes within a
limit; the scanner takes care of longer ones.

The openings of the five kinds differ in their first character, so at most one
kind can be read at any place.
-/

namespace InlineMarkers

open Text

/-- One marker at the start of a text. -/
structure Lexeme where
  kind : MarkerKind
  /-- How many characters stand before the value. -/
  lead : Nat
  value : List Char
  /-- How many characters of the marker follow the value. -/
  trail : Nat
  deriving DecidableEq, Repr

namespace Lexeme

def length (lexeme : Lexeme) : Nat :=
  lexeme.lead + lexeme.value.length + lexeme.trail

/-- The marker that a lexeme is when it stands at a position. -/
def toMarker (position : Nat) (lexeme : Lexeme) : Marker where
  kind := lexeme.kind
  value := lexeme.value
  start := position + lexeme.lead
  stop := position + lexeme.lead + lexeme.value.length
  markerStart := position
  markerStop := position + lexeme.length

/-- An ASCII letter or digit, or the underscore. -/
def isNameCharacter (c : Char) : Bool :=
  c.isAlphanum || c == '_'

/-- A character that a colour value may hold. -/
def isColorCharacter (c : Char) : Bool :=
  !(c == ',' || isBlank c || c == ']')

def isDateCharacter (c : Char) : Bool :=
  c.isDigit || c == '/' || c == '-'

/-- A character that a user name may hold. -/
def isAssigneeCharacter (c : Char) : Bool :=
  !(isBlank c || c == '@' || c == '#' || c == '[' || c == ']' || c == '+' || c == ',')

def isHexDigit (c : Char) : Bool :=
  c.isDigit || ('a' ≤ c && c ≤ 'f') || ('A' ≤ c && c ≤ 'F')

/-- Three or six hexadecimal digits: the shape of a colour without its number sign. -/
def isHexWord (word : List Char) : Bool :=
  (word.length == 3 || word.length == 6) && word.all isHexDigit

/-- Whether the text starts with the opening of a colour, in any case. -/
def startsColor (text : List Char) : Bool :=
  (text.take 6).map Char.toLower == MarkerKind.opening .color

/-- A tag that closes after at most `limit` characters. -/
def tag? (limit : Nat) : List Char → Option Lexeme
  | '[' :: rest =>
      match (rest.take (limit + 1)).span (· != ']') with
      | (value, ']' :: _) => some ⟨.tag, 1, value, 1⟩
      | _ => none
  | _ => none

/-- A colour and its value, which may be empty. -/
def color? (text : List Char) : Option Lexeme :=
  if startsColor text then
    some ⟨.color, 6, (text.drop 6).takeWhile isColorCharacter, 0⟩
  else none

/-- A number sign and at least one letter. -/
def priority? : List Char → Option Lexeme
  | '#' :: rest =>
      match rest.takeWhile Char.isAlpha with
      | [] => none
      | word => some ⟨.priority, 1, word, 0⟩
  | _ => none

/-- An at sign and a name that starts with a letter, or a numeric date. -/
def date? : List Char → Option Lexeme
  | '@' :: first :: rest =>
      if first.isAlpha then some ⟨.date, 1, first :: rest.takeWhile isNameCharacter, 0⟩
      else if first.isDigit then some ⟨.date, 1, first :: rest.takeWhile isDateCharacter, 0⟩
      else none
  | _ => none

/-- How many characters belong to an address that follows a user name directly. -/
def addressLength : List Char → Nat
  | '@' :: rest => 1 + (rest.takeWhile (!isBlank ·)).length
  | _ => 0

/-- A plus sign and a user name, with an address that may follow it. -/
def assignee? : List Char → Option Lexeme
  | '+' :: rest =>
      match rest.takeWhile isAssigneeCharacter with
      | [] => none
      | name => some ⟨.assignee, 1, name, addressLength (rest.dropWhile isAssigneeCharacter)⟩
  | _ => none

/-- The lexeme at the start of a text, with tags of at most `limit` characters. -/
def at? (limit : Nat) (text : List Char) : Option Lexeme :=
  tag? limit text <|> color? text <|> priority? text <|> date? text <|> assignee? text

/-- Whether a lexeme is reported as a marker: a hexadecimal word after a number sign is
a colour written on its own, not a priority. -/
def isReported (lexeme : Lexeme) : Bool :=
  !(lexeme.kind == .priority && isHexWord lexeme.value)

/-- The first lexeme in a text that stands at `position`, with its own position. -/
def firstFrom? (limit : Nat) : Nat → List Char → Option (Nat × Lexeme)
  | _, [] => none
  | position, c :: rest =>
      match at? limit (c :: rest) with
      | some lexeme => some (position, lexeme)
      | none => firstFrom? limit (position + 1) rest

end Lexeme

end InlineMarkers
