import InlineMarkers.Marker.Lexeme
import InlineMarkers.Text.LowerCase
import InlineMarkers.Value.Display
import InlineMarkers.Value.Numeral

/-!
# Marker settings

Settings come as an object of unknown shape and are brought into a
`MarkerConfig`, in which every number lies in its range, every colour is a
hexadecimal colour and the years are in order.  What cannot be used falls back
to its default, each setting on its own; only the two years are judged together.
Only a setting that is read as a text and cannot be displayed has no text to
judge, and then nothing comes of the settings at all.
-/

namespace InlineMarkers

open Text

inductive CompletionView where
  /-- A list under the cursor. -/
  | popup
  /-- A panel with a header and fewer rows. -/
  | panel
  deriving DecidableEq, Repr

namespace CompletionView

def name : CompletionView → String
  | popup => "popup"
  | panel => "panel"

/-- The view with a name, whatever its case and the blanks around it; the popup is the view
for every other name. -/
def ofName (name : List Char) : CompletionView :=
  if lower (trim name) == "panel".toList then panel else popup

end CompletionView

/-- Settings for finding, checking, completing and showing markers. -/
structure MarkerConfig where
  /-- Whether notes are checked at all. -/
  enabled : Bool
  /-- How long the tooltip waits after a change, in milliseconds. -/
  tooltipDelay : Nat
  /-- The longest note that is checked. -/
  maxNoteLength : Nat
  /-- The length up to which the scanner reads a tag in one piece. -/
  tagScanLimit : Nat
  /-- The longest beginning of a priority word that is not yet an error. -/
  priorityPartialLength : Nat
  /-- The longest user name that is not checked yet. -/
  assigneePartialLength : Nat
  /-- The longest tag without a warning. -/
  maxTagLength : Nat
  /-- The longest user name without a warning. -/
  maxAssigneeLength : Nat
  /-- Whether brackets with nothing but a cross inside are check boxes. -/
  tagCheckboxes : Bool
  /-- Whether plain words are suggested as markers. -/
  suggestionsEnabled : Bool
  /-- The shortest note in which markers left open are reported. -/
  incompleteLength : Nat
  /-- The shortest note in which a colour left open is reported. -/
  incompleteColorLength : Nat
  firstYear : Nat
  lastYear : Nat
  /-- How many completion lists are remembered. -/
  cacheCapacity : Nat
  /-- The most rows of the completion popup. -/
  popupLimit : Nat
  /-- The most rows of the completion panel. -/
  panelLimit : Nat
  completionView : CompletionView
  errorColor : List Char
  warningColor : List Char
  suggestionColor : List Char
  deriving DecidableEq, Repr

namespace MarkerConfig

/-- A hexadecimal colour: a number sign and three or six hexadecimal digits. -/
def isColor : List Char → Bool
  | '#' :: digits => Lexeme.isHexWord digits
  | _ => false

/-- A value as a whole number within bounds; the fallback if it is no integer. -/
def clamped (value : Value) (low high fallback : Nat) : Nat :=
  match value.toInteger with
  | .ok n => max low (min high n.toNat)
  | .error _ => fallback

/-- A setting that is a whole number within bounds. -/
def wholeSetting (settings : Value) (name : String) (low high fallback : Nat) : Nat :=
  match settings.member? name with
  | some value => clamped value low high fallback
  | none => fallback

/-- A setting that is on or off. -/
def switchSetting (settings : Value) (name : String) (fallback : Bool) : Bool :=
  match settings.member? name with
  | some value => value.isTrue
  | none => fallback

/-- A setting that is read as a text, if there is one that can be displayed. -/
def textSetting? (settings : Value) (name : String) : Option (List Char) :=
  (settings.member? name).bind fun value => value.displayIfTrue.toOption

/-- A setting that is a colour, without the blanks around it. -/
def colorSetting (settings : Value) (name : String) (fallback : List Char) : List Char :=
  match textSetting? settings name with
  | some text =>
      let color := trim text
      if isColor color then color else fallback
  | none => fallback

/-- The years that dates may name; both fall back when they are out of order. -/
def yearSettings (settings : Value) : Nat × Nat :=
  let first := wholeSetting settings "year_min" 1 9999 1900
  let last := wholeSetting settings "year_max" 1 9999 2100
  if last < first then (1900, 2100) else (first, last)

def viewSetting (settings : Value) : CompletionView :=
  match textSetting? settings "completion_ui" with
  | some name => CompletionView.ofName name
  | none => .popup

/-- The settings that an object holds, with defaults for what is missing or unusable.  Any
other value holds no settings. -/
def ofValue (settings : Value) : MarkerConfig where
  enabled := switchSetting settings "enabled" true
  tooltipDelay := wholeSetting settings "tooltip_delay_ms" 100 2000 600
  maxNoteLength := wholeSetting settings "max_buffer_chars" 256 2000000 20000
  tagScanLimit := wholeSetting settings "tag_scan_max_chars" 16 10000 500
  priorityPartialLength := wholeSetting settings "priority_partial_max_len" 0 8 2
  assigneePartialLength := wholeSetting settings "assignee_partial_max_len" 0 8 1
  maxTagLength := wholeSetting settings "tag_max_length" 4 1000 50
  maxAssigneeLength := wholeSetting settings "assignee_max_length" 4 1000 30
  tagCheckboxes := switchSetting settings "tag_checkboxes" true
  suggestionsEnabled := switchSetting settings "suggestions_enabled" true
  incompleteLength := wholeSetting settings "incomplete_min_length" 1 100 2
  incompleteColorLength := wholeSetting settings "incomplete_color_min_length" 1 100 6
  firstYear := (yearSettings settings).1
  lastYear := (yearSettings settings).2
  cacheCapacity := wholeSetting settings "completion_cache_capacity" 1 5000 50
  popupLimit := wholeSetting settings "completion_popup_limit" 1 100 10
  panelLimit := wholeSetting settings "completion_panel_limit" 1 100 8
  completionView := viewSetting settings
  errorColor := colorSetting settings "error_color" "#E35D6A".toList
  warningColor := colorSetting settings "warning_color" "#D6A54A".toList
  suggestionColor := colorSetting settings "suggestion_color" "#6AA1FF".toList

/-- The settings that are read as texts. -/
def textSettings : List String :=
  ["completion_ui", "error_color", "warning_color", "suggestion_color"]

/-- The settings that a value holds, as the program reads them: where a setting that is read as a
text cannot be displayed, it gives up instead of falling back to a default. -/
def normalize (settings : Value) : Except SpellingError MarkerConfig := do
  let _ ← (textSettings.filterMap settings.member?).mapM Value.displayIfTrue
  return ofValue settings

def standard : MarkerConfig :=
  ofValue (.object [])

def toValue (config : MarkerConfig) : Value :=
  .object
    [("enabled", .bool config.enabled),
      ("tooltip_delay_ms", .int config.tooltipDelay),
      ("max_buffer_chars", .int config.maxNoteLength),
      ("tag_scan_max_chars", .int config.tagScanLimit),
      ("priority_partial_max_len", .int config.priorityPartialLength),
      ("assignee_partial_max_len", .int config.assigneePartialLength),
      ("tag_max_length", .int config.maxTagLength),
      ("assignee_max_length", .int config.maxAssigneeLength),
      ("tag_checkboxes", .bool config.tagCheckboxes),
      ("suggestions_enabled", .bool config.suggestionsEnabled),
      ("incomplete_min_length", .int config.incompleteLength),
      ("incomplete_color_min_length", .int config.incompleteColorLength),
      ("year_min", .int config.firstYear),
      ("year_max", .int config.lastYear),
      ("completion_cache_capacity", .int config.cacheCapacity),
      ("completion_popup_limit", .int config.popupLimit),
      ("completion_panel_limit", .int config.panelLimit),
      ("completion_ui", .text config.completionView.name),
      ("error_color", .text (String.ofList config.errorColor)),
      ("warning_color", .text (String.ofList config.warningColor)),
      ("suggestion_color", .text (String.ofList config.suggestionColor))]

/-- The colour for a severity's word, whatever its case; words that name neither errors nor
warnings get the colour of suggestions. -/
def colorFor (config : MarkerConfig) (severity : List Char) : List Char :=
  let word := lower severity
  if word == "error".toList then config.errorColor
  else if word == "warning".toList then config.warningColor
  else config.suggestionColor

end MarkerConfig

end InlineMarkers
