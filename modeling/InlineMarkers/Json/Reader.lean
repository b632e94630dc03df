import InlineMarkers.Text.Units
import InlineMarkers.Value.Decimal
import InlineMarkers.Value.Numeral

/-!
# Reading JSON

The reader takes the JSON grammar with three more numbers, `NaN` and the two
infinities.  Blanks are space, tab and the two line breaks only.  A text may not
hold raw control characters, two escaped surrogates that belong together are one
character, and a name given twice in an object keeps its later value.

Every function gives what it has read together with the rest of the text, or
nothing when the text does not start with what it reads.
-/

namespace InlineMarkers.Json

/-- A blank between the tokens of a JSON text. -/
def isSpace (c : Char) : Bool :=
  c == ' ' || c == '\t' || c == '\n' || c == '\r'

def skipSpaces (text : List Char) : List Char :=
  text.dropWhile isSpace

def hexValue? (c : Char) : Option Nat :=
  if c.isDigit then some (c.toNat - 0x30)
  else if 'a' ≤ c ∧ c ≤ 'f' then some (c.toNat - 0x61 + 10)
  else if 'A' ≤ c ∧ c ≤ 'F' then some (c.toNat - 0x41 + 10)
  else none

def codeUnit? (a b c d : Char) : Option Nat := do
  let first ← hexValue? a
  let second ← hexValue? b
  let third ← hexValue? c
  let fourth ← hexValue? d
  return ((first * 16 + second) * 16 + third) * 16 + fourth

/-- The character that a backslash and one more character stand for. -/
def shortEscape? (c : Char) : Option Char :=
  match c with
  | '"' => some '"'
  | '\\' => some '\\'
  | '/' => some '/'
  | 'b' => some '\x08'
  | 'f' => some '\x0c'
  | 'n' => some '\n'
  | 'r' => some '\r'
  | 't' => some '\t'
  | _ => none

/-- The code points and escaped code units of a text up to its closing quote. -/
def codeUnits? : List Char → Option (List Nat × List Char)
  | [] => none
  | '"' :: rest => some ([], rest)
  | '\\' :: 'u' :: a :: b :: c :: d :: rest => do
      let unit ← codeUnit? a b c d
      let (units, after) ← codeUnits? rest
      return (unit :: units, after)
  | '\\' :: c :: rest => do
      let escaped ← shortEscape? c
      let (units, after) ← codeUnits? rest
      return (escaped.toNat :: units, after)
  | c :: rest =>
      if c.toNat < 0x20 || c == '\\' then none
      else do
        let (units, after) ← codeUnits? rest
        return (c.toNat :: units, after)

/-- The rest of a text whose opening quote has been read. -/
def readText? (text : List Char) : Option (String × List Char) :=
  (codeUnits? text).map fun (units, after) => (String.ofList (Text.ofUnits units), after)

/-- The digits of a whole number: no zero before another digit. -/
def wholeDigits? : List Char → Option (List Char × List Char)
  | '0' :: rest => some (['0'], rest)
  | c :: rest =>
      if c.isDigit then some (c :: rest.takeWhile Char.isDigit, rest.dropWhile Char.isDigit)
      else none
  | [] => none

/-- The digits after a decimal point; none if no point with a digit follows. -/
def fraction : List Char → List Char × List Char
  | '.' :: rest =>
      match rest.takeWhile Char.isDigit with
      | [] => ([], '.' :: rest)
      | digits => (digits, rest.dropWhile Char.isDigit)
  | text => ([], text)

/-- The exponent of ten at the start of a text, if a whole one stands there. -/
def exponent? : List Char → Option (Int × List Char)
  | c :: rest =>
      if c == 'e' || c == 'E' then
        let (sign, rest) : Int × List Char :=
          match rest with
          | '-' :: rest => (-1, rest)
          | '+' :: rest => (1, rest)
          | rest => (1, rest)
        match rest.takeWhile Char.isDigit with
        | [] => none
        | digits => some (sign * (Text.digitsValue digits : Int), rest.dropWhile Char.isDigit)
      else none
  | [] => none

/-- A number without its sign.  It is a whole number unless it has a fraction or an
exponent, and a whole number has no more digits than a numeral may have. -/
def readNumber? (negative : Bool) (text : List Char) : Option (Value × List Char) := do
  let (whole, afterWhole) ← wholeDigits? text
  let (decimals, afterFraction) := fraction afterWhole
  match decimals, exponent? afterFraction with
  | [], none =>
      if Numeral.digitLimit < whole.length then none
      else
        let size : Int := Text.digitsValue whole
        some (.int (if negative then -size else size), afterFraction)
  | decimals, scale =>
      let (power, after) := scale.getD (0, afterFraction)
      some (.float (Decimal.read negative (Text.digitsValue (whole ++ decimals))
        (power - decimals.length)), after)

/-- The rest of a text behind a word that it starts with. -/
def afterWord? (word text : List Char) : Option (List Char) :=
  if text.take word.length == word then some (text.drop word.length) else none

def words : List (String × Value) :=
  [("null", .null), ("true", .bool true), ("false", .bool false),
    ("NaN", .float Binary64.notANumber), ("Infinity", .float (Binary64.infinity false)),
    ("-Infinity", .float (Binary64.infinity true))]

def readScalar? (text : List Char) : Option (Value × List Char) :=
  let word := words.findSome? fun (word, value) =>
    (afterWord? word.toList text).map fun after => (value, after)
  match word, text with
  | some found, _ => some found
  | none, '-' :: rest => readNumber? true rest
  | none, _ => readNumber? false text

mutual

/-- The value at the start of a text.  The first argument bounds the nesting of calls; the
length of the text is always enough. -/
def readValue? : Nat → List Char → Option (Value × List Char)
  | 0, _ => none
  | _ + 1, '"' :: rest => do
      let (value, after) ← readText? rest
      return (.text value, after)
  | fuel + 1, '[' :: rest =>
      match skipSpaces rest with
      | ']' :: after => some (.array [], after)
      | items => do
          let (items, after) ← readItems? fuel items
          return (.array items, after)
  | fuel + 1, '{' :: rest =>
      match skipSpaces rest with
      | '}' :: after => some (.object [], after)
      | members => do
          let (members, after) ← readMembers? fuel members
          return (.object (Members.ofList members), after)
  | _ + 1, text => readScalar? text

/-- The items of an array up to its closing bracket. -/
def readItems? : Nat → List Char → Option (List Value × List Char)
  | 0, _ => none
  | fuel + 1, text => do
      let (item, after) ← readValue? fuel text
      match skipSpaces after with
      | ',' :: rest => do
          let (items, after) ← readItems? fuel (skipSpaces rest)
          return (item :: items, after)
      | ']' :: rest => return ([item], rest)
      | _ => none

def readMembers? : Nat → List Char → Option (List (String × Value) × List Char)
  | 0, _ => none
  | fuel + 1, '"' :: text => do
      let (name, after) ← readText? text
      match skipSpaces after with
      | ':' :: rest => do
          let (value, after) ← readValue? fuel (skipSpaces rest)
          match skipSpaces after with
          | ',' :: rest => do
              let (members, after) ← readMembers? fuel (skipSpaces rest)
              return ((name, value) :: members, after)
          | '}' :: rest => return ([(name, value)], rest)
          | _ => none
      | _ => none
  | _ + 1, _ => none

end

/-- The value that a whole text is, with blanks around it. -/
def read? (text : List Char) : Option Value :=
  match readValue? (text.length + 1) (skipSpaces text) with
  | some (value, after) => if (skipSpaces after).isEmpty then some value else none
  | none => none

end InlineMarkers.Json
