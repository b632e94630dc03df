/-!
# UTF-16 units

Files and editors count text in UTF-16 units, the library in characters.  A
character beyond the basic plane takes two units, a surrogate pair.  `toUnits`
and `ofUnits` go from characters to units and back.

A position in units and an index in characters are turned into each other by
`unitOffset` and `indexOfUnit`; a position in the middle of a character belongs
to the character's end.  A text that is ASCII throughout needs no counting.
-/

namespace InlineMarkers.Text

/-- Whether a unit is the first of a surrogate pair. -/
def isHighSurrogate (unit : Nat) : Bool :=
  0xD800 ≤ unit && unit < 0xDC00

/-- Whether a unit is the second of a surrogate pair. -/
def isLowSurrogate (unit : Nat) : Bool :=
  0xDC00 ≤ unit && unit < 0xE000

/-- The UTF-16 units of a character. -/
def characterUnits (c : Char) : List Nat :=
  let code := c.toNat
  if code < 0x10000 then [code]
  else [0xD800 + (code - 0x10000) / 0x400, 0xDC00 + (code - 0x10000) % 0x400]

def toUnits (text : List Char) : List Nat :=
  text.flatMap characterUnits

/-- The character of a code point; a surrogate on its own becomes the replacement
character. -/
def characterOfCode (code : Nat) : Char :=
  if isHighSurrogate code || isLowSurrogate code then '\uFFFD' else Char.ofNat code

def characterOfPair (high low : Nat) : Char :=
  Char.ofNat (0x10000 + (high - 0xD800) * 0x400 + (low - 0xDC00))

/-- The characters of a list of units, among which there may be whole code points too. -/
def ofUnits : List Nat → List Char
  | [] => []
  | [unit] => [characterOfCode unit]
  | high :: low :: rest =>
      if isHighSurrogate high && isLowSurrogate low then
        characterOfPair high low :: ofUnits rest
      else characterOfCode high :: ofUnits (low :: rest)

/-- The number of UTF-16 units of one character. -/
def unitCount (c : Char) : Nat :=
  (characterUnits c).length

/-- The number of UTF-16 units of a text. -/
def units : List Char → Nat
  | [] => 0
  | c :: rest => unitCount c + units rest

/-- An index brought into the range from zero to a length. -/
def clampIndex (index : Int) (length : Nat) : Nat :=
  min index.toNat length

def isAscii (text : List Char) : Bool :=
  text.all (·.toNat < 0x80)

/-- The unit position of a character index; an index outside the text is clamped. -/
def unitOffset (text : List Char) (index : Int) : Nat :=
  let index := clampIndex index text.length
  if isAscii text then index else units (text.take index)

/-- How many characters it takes to reach a unit position. -/
def charactersUpTo : List Char → Nat → Nat
  | [], _ => 0
  | c :: rest, position =>
      if position = 0 then 0 else charactersUpTo rest (position - unitCount c) + 1

/-- The least character index whose unit position reaches the given one, or the
text's length when there is none. -/
def indexOfUnit (text : List Char) (position : Int) : Nat :=
  if isAscii text then min position.toNat text.length else charactersUpTo text position.toNat

@[simp] theorem units_nil : units [] = 0 := rfl

@[simp] theorem units_cons (c : Char) (text : List Char) :
    units (c :: text) = unitCount c + units text := rfl

@[simp] theorem units_append (left right : List Char) :
    units (left ++ right) = units left + units right := by
  induction left with
  | nil => simp
  | cons c left ih => rw [List.cons_append, units_cons, units_cons, ih, Nat.add_assoc]

/-- Every character takes one unit or two. -/
theorem unitCount_eq (c : Char) : unitCount c = if c.toNat < 0x10000 then 1 else 2 := by
  simp only [unitCount, characterUnits]
  split <;> rfl

theorem unitCount_pos (c : Char) : 0 < unitCount c := by
  rw [unitCount_eq]
  split <;> omega

/-- The units of a text are as many as it takes. -/
theorem length_toUnits (text : List Char) : (toUnits text).length = units text := by
  induction text with
  | nil => rfl
  | cons c rest ih =>
      rw [units_cons, ← ih, unitCount, ← List.length_append]
      rfl

end InlineMarkers.Text
