import InlineMarkers.Text.Printable
import InlineMarkers.Value.Decimal
import InlineMarkers.Value.Spelling

/-!
# Values as text

`display` is how a value reads when it stands in a sentence.  A text stands for
itself; inside an array or an object it is quoted, with single quotes unless it
holds one and no double quote, and what cannot be printed is escaped.  A value
with an integer of too many digits in it cannot be displayed.
-/

namespace InlineMarkers

open Text

namespace Quoted

/-- The lower-case hexadecimal digits of a number, with zeros in front up to a width. -/
def hex (width n : Nat) : List Char :=
  let digits := Nat.toDigits 16 n
  List.replicate (width - digits.length) '0' ++ digits

def character (quote c : Char) : List Char :=
  if c == quote || c == '\\' then ['\\', c]
  else if c == '\n' then ['\\', 'n']
  else if c == '\r' then ['\\', 'r']
  else if c == '\t' then ['\\', 't']
  else if isPrintable c then [c]
  else if c.toNat < 0x100 then '\\' :: 'x' :: hex 2 c.toNat
  else if c.toNat < 0x10000 then '\\' :: 'u' :: hex 4 c.toNat
  else '\\' :: 'U' :: hex 8 c.toNat

/-- A text in quotes. -/
def text (value : List Char) : List Char :=
  let quote := if value.contains '\'' && !value.contains '"' then '"' else '\''
  quote :: (value.flatMap (character quote) ++ [quote])

end Quoted

/-- How displayed values spell the floating-point numbers without digits. -/
def displaySpelling : Decimal.Spelling where
  infinity := ['i', 'n', 'f']
  notANumber := ['n', 'a', 'n']

namespace Value

/-- Texts with a comma and a space between them. -/
def commaSeparated : List (List Char) → List Char
  | [] => []
  | [part] => part
  | part :: others => part ++ ',' :: ' ' :: commaSeparated others

mutual

/-- A value as it reads inside an array or an object, with all digits of its integers. -/
def quoted : Value → List Char
  | null => "None".toList
  | bool value => if value then "True".toList else "False".toList
  | int value => (toString value).toList
  | float value => Decimal.write displaySpelling value
  | text value => Quoted.text value.toList
  | array items => '[' :: (commaSeparated (quotedItems items) ++ [']'])
  | object members => '{' :: (commaSeparated (quotedMembers members) ++ ['}'])
termination_by structural value => value

def quotedItems : List Value → List (List Char)
  | [] => []
  | item :: rest => quoted item :: quotedItems rest
termination_by structural items => items

def quotedMembers : List (String × Value) → List (List Char)
  | [] => []
  | (name, value) :: rest =>
      (Quoted.text name.toList ++ ':' :: ' ' :: quoted value) :: quotedMembers rest
termination_by structural members => members

end

/-- A value as it reads in a sentence, if it can be written as text. -/
def display (value : Value) : Except SpellingError (List Char) :=
  if value.isSpellable then
    .ok <|
      match value with
      | text value => value.toList
      | value => quoted value
  else .error .tooManyDigits

/-- A value as it reads in a sentence, the empty text if it counts as false. -/
def displayIfTrue (value : Value) : Except SpellingError (List Char) :=
  if value.isTrue then value.display else .ok []

theorem exists_display_iff {value : Value} :
    (∃ text, value.display = .ok text) ↔ value.isSpellable = true := by
  unfold display
  split <;> simp_all

/-- What counts as false has no digits but a single zero. -/
theorem isSpellable_of_isTrue_eq_false {value : Value} (isFalse : value.isTrue = false) :
    value.isSpellable = true := by
  cases value with
  | int n =>
      obtain rfl : n = 0 := by simpa [isTrue] using isFalse
      decide
  | array items =>
      obtain rfl : items = [] := by simpa [isTrue] using isFalse
      rfl
  | object members =>
      obtain rfl : members = [] := by simpa [isTrue] using isFalse
      rfl
  | _ => rfl

theorem exists_displayIfTrue_iff {value : Value} :
    (∃ text, value.displayIfTrue = .ok text) ↔ value.isSpellable = true := by
  unfold displayIfTrue
  split
  case isTrue => exact exists_display_iff
  case isFalse isFalse =>
      exact iff_of_true ⟨[], rfl⟩
        (isSpellable_of_isTrue_eq_false (Bool.eq_false_iff.mpr isFalse))

@[simp] theorem display_text (value : String) : (text value).display = .ok value.toList := rfl

@[simp] theorem displayIfTrue_text (value : String) :
    (text value).displayIfTrue = .ok value.toList := by
  unfold displayIfTrue
  split
  case isTrue => rfl
  case isFalse isFalse =>
      obtain rfl : value = "" := by simpa [isTrue] using isFalse
      rfl

end Value

end InlineMarkers
