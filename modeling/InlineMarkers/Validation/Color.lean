import InlineMarkers.Diagnostic.Basic
import InlineMarkers.Settings.MarkerConfig

/-!
# Colours

A colour's value must be a number sign with three or six hexadecimal digits.
The fix keeps the hexadecimal digits of what was typed and fills up with zeros;
three common colours are offered besides.
-/

namespace InlineMarkers.Validation

open Text

/-- Whether a text is a hexadecimal colour; one final line break is ignored. -/
def isHexColor (value : List Char) : Bool :=
  MarkerConfig.isColor (withoutFinalBreak value)

/-- Six hexadecimal digits from the first ones of a list, with zeros at the end. -/
def sixDigits (digits : List Char) : List Char :=
  (digits ++ List.replicate (6 - digits.length) '0').take 6

/-- The colour closest to a text: its hexadecimal digits, six of them. -/
def fallbackColor (value : List Char) : List Char :=
  '#' :: sixDigits (value.filter Lexeme.isHexDigit)

/-- The colours offered besides the closest one. -/
def paletteFixes : List QuickFix :=
  [⟨"Use red", "#ff0000".toList, some "Set to red color"⟩,
    ⟨"Use blue", "#0000ff".toList, some "Set to blue color"⟩,
    ⟨"Use black", "#000000".toList, some "Set to black color"⟩]

def checkColor (value : List Char) (start : Nat) : Option Diagnostic :=
  if value.isEmpty || isHexColor value then none
  else
    let fixed := fallbackColor value
    some <| Diagnostic.ofValue .error "Invalid hex color format. Use #RGB or #RRGGBB format."
      start value (some fixed) (some .colorFormatInvalid)
      (some "Use #RGB or #RRGGBB format (e.g., #ff0000 for red)")
      (⟨"Fix format", fixed, some "Convert to valid hex color"⟩ :: paletteFixes)

end InlineMarkers.Validation
