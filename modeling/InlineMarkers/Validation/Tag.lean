import InlineMarkers.Diagnostic.Basic
import InlineMarkers.Settings.MarkerConfig

/-!
# Tags

A tag must say something, should be free of angle brackets and quotes, and
should not be too long.  Brackets with nothing or a single cross inside are a
check box when the settings allow check boxes.
-/

namespace InlineMarkers.Validation

open Text

/-- Whether the inside of brackets is that of a check box: blanks around at most one cross. -/
def isCheckbox (content : List Char) : Bool :=
  match trim content with
  | [] => true
  | [c] => c == 'x' || c == 'X'
  | _ => false

def isForbiddenInTag (c : Char) : Bool :=
  c == '<' || c == '>' || c == '\'' || c == '"'

/-- The tag put in where nothing usable was typed. -/
def newTag : List Char :=
  "new-tag".toList

/-- The content of a tag without the forbidden characters and the blanks around it. -/
def sanitizeTag (content : List Char) : List Char :=
  match trim (content.filter (!isForbiddenInTag ·)) with
  | [] => newTag
  | cleaned => cleaned

/-- The diagnostic for a tag that says nothing, with the replacement to offer. -/
def emptyTag (start : Int) (flagged replacement : List Char) : Diagnostic :=
  Diagnostic.ofValue .error "Tags cannot be empty." start flagged (some replacement)
    (some .tagEmpty) (some "Tags look like [urgent] or [meeting]")
    [⟨"Add tag name", replacement, some "Insert a placeholder tag"⟩]

/-- A tag cut to leave room for three dots. -/
def truncateTag (limit : Nat) (content : List Char) : List Char :=
  trimEnd (content.take (max 1 (limit - 3))) ++ ['.', '.', '.']

/-- The diagnostic for the content of a tag that starts at `start`, just behind the bracket.
For empty brackets the brackets themselves are flagged, since there is nothing between them. -/
def checkTag (config : MarkerConfig) (content : List Char) (start : Nat) : Option Diagnostic :=
  if config.tagCheckboxes && isCheckbox content then none
  else if (trim content).isEmpty then
    if content.isEmpty then
      if start < 1 then none
      else some (emptyTag (start - 1) ['[', ']'] ('[' :: (newTag ++ [']'])))
    else some (emptyTag start content newTag)
  else if content.any isForbiddenInTag then
    let cleaned := sanitizeTag content
    some <| Diagnostic.ofValue .warning "Tags contain special characters that may cause issues."
      start content (some cleaned) (some .tagInvalidChars)
      (some "Avoid < > and quote characters in tags")
      [⟨"Remove special characters", cleaned, some "Strip < > ' \" from the tag"⟩]
  else if config.maxTagLength < content.length then
    let limit := config.maxTagLength
    let truncated := truncateTag limit content
    let size := truncated.length
    some <| Diagnostic.ofValue .warning s!"Tag is longer than {limit} characters."
      start content (some truncated) (some .tagTooLong)
      (some s!"Keep tags under {limit} characters")
      [⟨"Shorten tag", truncated, some s!"Truncate to {size} characters"⟩]
  else none

end InlineMarkers.Validation
