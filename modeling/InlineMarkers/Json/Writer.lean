import InlineMarkers.Text.Units
import InlineMarkers.Value.Decimal
import InlineMarkers.Value.Spelling

/-!
# Writing JSON

The writer indents by two blanks, sorts the members of every object by name and
uses ASCII only: every other character is escaped by its UTF-16 code units in
lower-case hexadecimal.  An empty array or object stays on one line.  Nothing is
written for a value with an integer that the reader would not take.
-/

namespace InlineMarkers.Json

/-- A code unit as an escape of four hexadecimal digits. -/
def unitEscape (unit : Nat) : List Char :=
  let digits := Nat.toDigits 16 unit
  '\\' :: 'u' :: (List.replicate (4 - digits.length) '0' ++ digits)

/-- The escape of a character that may not stand for itself. -/
def escape (c : Char) : List Char :=
  match c with
  | '"' => ['\\', '"']
  | '\\' => ['\\', '\\']
  | '\n' => ['\\', 'n']
  | '\r' => ['\\', 'r']
  | '\t' => ['\\', 't']
  | '\x0c' => ['\\', 'f']
  | '\x08' => ['\\', 'b']
  | _ => (Text.characterUnits c).flatMap unitEscape

/-- Whether a character stands for itself: printable ASCII without quote and backslash. -/
def isPlain (c : Char) : Bool :=
  ' ' ≤ c && c ≤ '~' && c != '"' && c != '\\'

def writeCharacter (c : Char) : List Char :=
  if isPlain c then [c] else escape c

def writeText (text : List Char) : List Char :=
  '"' :: (text.flatMap writeCharacter ++ ['"'])

/-- How JSON spells the floating-point numbers without digits. -/
def spelling : Decimal.Spelling where
  infinity := ['I', 'n', 'f', 'i', 'n', 'i', 't', 'y']
  notANumber := ['N', 'a', 'N']

/-- A line break and the blanks that start a line at a depth. -/
def newLine (depth : Nat) : List Char :=
  '\n' :: List.replicate (2 * depth) ' '

/-- The lines of an array or object, with commas between them. -/
def joinLines (depth : Nat) : List (List Char) → List Char
  | [] => []
  | [line] => newLine depth ++ line
  | line :: others => newLine depth ++ line ++ ',' :: joinLines depth others

def enclosed (opening closing : Char) (depth : Nat) : List (List Char) → List Char
  | [] => [opening, closing]
  | lines => opening :: (joinLines (depth + 1) lines ++ newLine depth ++ [closing])

/-- Written members in the order of their names. -/
def sortByName (members : List (String × List Char)) : List (String × List Char) :=
  members.mergeSort fun left right => !decide (right.1 < left.1)

mutual

/-- A value written at a depth of nesting, with all digits of its integers. -/
def writeAt : Nat → Value → List Char
  | _, .null => "null".toList
  | _, .bool value => if value then "true".toList else "false".toList
  | _, .int value => (toString value).toList
  | _, .float value => Decimal.write spelling value
  | _, .text value => writeText value.toList
  | depth, .array items => enclosed '[' ']' depth (writeItems (depth + 1) items)
  | depth, .object members =>
      enclosed '{' '}' depth <|
        (sortByName (writeMembers (depth + 1) members)).map fun (name, value) =>
          writeText name.toList ++ ':' :: ' ' :: value
termination_by structural _ value => value

def writeItems : Nat → List Value → List (List Char)
  | _, [] => []
  | depth, item :: rest => writeAt depth item :: writeItems depth rest
termination_by structural _ items => items

def writeMembers : Nat → List (String × Value) → List (String × List Char)
  | _, [] => []
  | depth, (name, value) :: rest => (name, writeAt depth value) :: writeMembers depth rest
termination_by structural _ members => members

end

/-- The text of a value, if it can be written as text. -/
def write (value : Value) : Except SpellingError (List Char) :=
  if value.isSpellable then .ok (writeAt 0 value) else .error .tooManyDigits

end InlineMarkers.Json
