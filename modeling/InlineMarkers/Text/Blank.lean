/-!
# Blank characters and trimming

A character is blank when Unicode counts it as white space, or when it is one
of the four ASCII separator controls.  Note text is a list of characters, so
trimming a text is dropping blank characters from one end of the list.

A pattern that must reach the end of a text also accepts one final line break;
`atEnd` and `withoutFinalBreak` state that rule once for the whole library.
-/

namespace InlineMarkers.Text

/-- White space of any script, the ASCII separators U+001C to U+001F included. -/
def isBlank (c : Char) : Bool :=
  let code := c.toNat
  (0x09 ≤ code && code ≤ 0x0D) || (0x1C ≤ code && code ≤ 0x20) || code == 0x85 ||
    code == 0xA0 || code == 0x1680 || (0x2000 ≤ code && code ≤ 0x200A) ||
    code == 0x2028 || code == 0x2029 || code == 0x202F || code == 0x205F || code == 0x3000

/-- The text from its first character that is not blank. -/
def trimStart (text : List Char) : List Char :=
  text.dropWhile isBlank

/-- The text up to its last character that is not blank. -/
def trimEnd (text : List Char) : List Char :=
  (text.reverse.dropWhile isBlank).reverse

def trim (text : List Char) : List Char :=
  trimEnd (trimStart text)

/-- A text counts as finished when nothing is left of it but at most one line break. -/
def atEnd : List Char → Bool
  | [] => true
  | [c] => c == '\n'
  | _ => false

/-- The text without the one line break that may close it. -/
def withoutFinalBreak : List Char → List Char
  | [] => []
  | ['\n'] => []
  | c :: rest => c :: withoutFinalBreak rest

/-- The part of a text between two positions. -/
def slice (text : List Char) (start stop : Nat) : List Char :=
  (text.drop start).take (stop - start)

theorem slice_length_le (text : List Char) (start stop : Nat) :
    (slice text start stop).length ≤ stop - start := by
  simp only [slice, List.length_take]
  omega

end InlineMarkers.Text
