import InlineMarkers.Diagnostic.Basic
import InlineMarkers.Marker.Scanner
import InlineMarkers.Settings.MarkerConfig
import InlineMarkers.Text.Search
import InlineMarkers.Text.WordCharacter

/-!
# Suggestions

Plain words that could be markers are pointed out: words of urgency could be
tags, and day words could be dates.  Words are found whole and in any case,
where four letters of other scripts count as spellings of ASCII letters.  A word
inside a marker is left alone, and so is a tag word that the note already uses
as a tag or priority, and every day word of a note that has a date.
-/

namespace InlineMarkers.Validation

open Text

def tagWords : List String :=
  ["urgent", "important"]

def dayWords : List String :=
  ["today", "tomorrow", "yesterday", "monday", "tuesday", "wednesday", "thursday", "friday",
    "saturday", "sunday"]

/-- Whether a character is a spelling of a lower-case ASCII letter: the letter in either case,
a dotted capital or dotless small I, a long S, or the Kelvin sign. -/
def spells (letter c : Char) : Bool :=
  c.toLower == letter ||
    (letter == 'i' && (c == 'İ' || c == 'ı')) ||
    (letter == 's' && c == 'ſ') ||
    (letter == 'k' && c == '\u212A')

/-- The beginning of a text that spells a word. -/
def spelledWord? : List Char → List Char → Option (List Char)
  | [], _ => some []
  | letter :: letters, c :: rest =>
      if spells letter c then (spelledWord? letters rest).map (c :: ·) else none
  | _ :: _, [] => none

/-- One of some words, whole. -/
def wholeWord (words : List String) : Pattern := fun before text =>
  if isWordBoundary before.head? text.head? then
    words.findSome? fun word =>
      (spelledWord? word.toList text).filter fun spelled =>
        isWordBoundary spelled.getLast? (text.drop spelled.length).head?
  else none

/-- The words that a note already uses as tags or priorities, in lower case. -/
def markedWords (markers : List Marker) : List (List Char) :=
  (markers.filter fun marker => marker.kind == .tag || marker.kind == .priority).map
    fun marker => lower (trim marker.value)

def suggestTag (word : Found) : Diagnostic :=
  let replacement := '[' :: (lower word.text ++ [']'])
  let shown := String.ofList replacement
  Diagnostic.ofValue .suggestion "Consider using a tag format for better organization."
    word.position word.text (some replacement) (some .tagSuggestion) none
    [⟨s!"Use {shown}", replacement, some "Turn the word into a tag"⟩]

/-- The suggestions for tag words, given the words that need none any more. -/
def suggestTags (spans : List (Nat × Nat)) : List (List Char) → List Found → List Diagnostic
  | _, [] => []
  | known, word :: rest =>
      if known.contains (lower word.text) || insideAnySpan word.position word.stop spans then
        suggestTags spans known rest
      else suggestTag word :: suggestTags spans (lower word.text :: known) rest

def suggestDate (word : Found) : Diagnostic :=
  let replacement := '@' :: lower word.text
  let shown := String.ofList replacement
  Diagnostic.ofValue .suggestion s!"Consider using \"{shown}\" to set a due date."
    word.position word.text (some replacement) (some .datePatternSuggestion)
    (some "Dates look like @today or @2025-02-15")
    [⟨s!"Use {shown}", replacement, some "Turn the word into a date marker"⟩]

/-- The suggestions of tags for a note with known markers. -/
def tagSuggestions (text : List Char) (markers : List Marker) : List Diagnostic :=
  suggestTags (Marker.spans markers) (markedWords markers) ((wholeWord tagWords).all text)

/-- The suggestion of a date for a note with known markers. -/
def dateSuggestion? (text : List Char) (markers : List Marker) : Option Diagnostic :=
  if markers.any (·.kind == .date) then none
  else
    (((wholeWord dayWords).all text).find? fun word =>
      !insideAnySpan word.position word.stop (Marker.spans markers)).map suggestDate

/-- The suggestions for a note with known markers. -/
def findSuggestions (config : MarkerConfig) (text : List Char) (markers : List Marker) :
    List Diagnostic :=
  if text.isEmpty || !config.suggestionsEnabled then []
  else tagSuggestions text markers ++ (dateSuggestion? text markers).toList

end InlineMarkers.Validation
