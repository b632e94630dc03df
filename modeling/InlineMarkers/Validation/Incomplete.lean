import InlineMarkers.Diagnostic.Basic
import InlineMarkers.Settings.MarkerConfig
import InlineMarkers.Text.Search

/-!
# Markers left open at the end

A note may end in a marker that is not finished: a bracket that is not closed, a
colour without enough digits, an at sign, plus sign or number sign with nothing
behind it.  Each kind has a rule: a pattern that reaches to the end of the note,
a message and a way to finish the marker.  The rules are independent of each
other and each reports at most one marker.
-/

namespace InlineMarkers.Validation

open Text

/-- The part of a text that an open tag covers: a bracket and all that follows, if no closing
bracket is in it. -/
def openTag : Pattern := fun _ text =>
  match text with
  | '[' :: rest => if rest.contains ']' then none else some ('[' :: rest)
  | _ => none

/-- The hexadecimal digits at the start of a text, at most two of them. -/
def leadingHexDigits (text : List Char) : List Char :=
  (text.take 2).takeWhile Lexeme.isHexDigit

def leadingNumberSign : List Char → List Char
  | '#' :: _ => ['#']
  | _ => []

/-- The opening of a colour, blanks, a number sign that may be missing and at most two
hexadecimal digits, when that is the end of the text. -/
def openColor : Pattern := fun _ text =>
  if Lexeme.startsColor text then
    let value := text.drop 6
    let blanks := value.takeWhile isBlank
    let sign := leadingNumberSign (value.drop blanks.length)
    let digits := leadingHexDigits (value.drop (blanks.length + sign.length))
    let covered := text.take 6 ++ blanks ++ sign ++ digits
    if atEnd (text.drop covered.length) then some covered else none
  else none

/-- A character with only blanks between it and the end of the text. -/
def openCharacter (opening : Char) : Pattern := fun _ text =>
  match text with
  | c :: rest => if c == opening && rest.all isBlank then some (c :: rest) else none
  | [] => none

/-- Whether a place comes right after the opening of a colour; the characters before it are
given in reverse. -/
def followsColorOpening (before : List Char) : Bool :=
  Lexeme.startsColor (before.take 6).reverse

/-- A number sign with only blanks behind it, unless it belongs to a colour. -/
def openPriority : Pattern := fun before text =>
  if followsColorOpening before then none else openCharacter '#' before text

def closeTag (fragment : List Char) : List Char :=
  trimEnd fragment ++ [']']

/-- The hexadecimal digits at the end of a text; one final line break is ignored. -/
def trailingHexDigits (text : List Char) : List Char :=
  ((withoutFinalBreak text).reverse.takeWhile Lexeme.isHexDigit).reverse

/-- An open colour finished with zeros. -/
def finishColor (fragment : List Char) : List Char :=
  let digits := trailingHexDigits fragment
  "color:#".toList ++ digits ++ List.replicate (6 - digits.length) '0'

/-- How one kind of open marker is found and finished. -/
structure IncompleteRule where
  kind : MarkerKind
  pattern : Pattern
  message : String
  code : DiagnosticCode
  fixLabel : String
  /-- What takes the place of the part that the pattern matches. -/
  finish : List Char → List Char

namespace IncompleteRule

/-- The rules in the order of their reports. -/
def all : List IncompleteRule :=
  [⟨.tag, openTag, "Incomplete tag - missing closing bracket", .tagIncomplete, "Close tag",
      closeTag⟩,
    ⟨.color, openColor, "Incomplete color - provide a hex color value", .colorIncomplete,
      "Complete color", finishColor⟩,
    ⟨.date, openCharacter '@', "Incomplete date - provide a date value", .dateIncomplete,
      "Use @today", fun _ => "@today".toList⟩,
    ⟨.assignee, openCharacter '+', "Incomplete assignee - provide a username",
      .assigneeIncomplete, "Assign to me", fun _ => "+me".toList⟩,
    ⟨.priority, openPriority, "Incomplete priority - use low, medium, or high",
      .priorityIncomplete, "Use #medium", fun _ => "#medium".toList⟩]

/-- The shortest note to which a rule applies. -/
def minLength (config : MarkerConfig) (rule : IncompleteRule) : Nat :=
  if rule.kind = .color then config.incompleteColorLength else config.incompleteLength

/-- Where the search for a rule's pattern begins: an open bracket can only stand after the
last closing one. -/
def searchStart (rule : IncompleteRule) (text : List Char) : Nat :=
  if rule.kind = .tag then text.length - (text.reverse.takeWhile (· != ']')).length else 0

def find? (rule : IncompleteRule) (text : List Char) : Option Found :=
  let start := rule.searchStart text
  rule.pattern.firstFrom? (text.take start).reverse (text.drop start)

def warning? (config : MarkerConfig) (text : List Char) (rule : IncompleteRule) :
    Option Diagnostic :=
  if text.length < rule.minLength config then none
  else
    (rule.find? text).map fun found =>
      let replacement := rule.finish found.text
      Diagnostic.ofValue .warning rule.message found.position found.text (some replacement)
        (some rule.code) none [⟨rule.fixLabel, replacement, none⟩]

end IncompleteRule

/-- The warnings about markers left open at the end of a note. -/
def findIncomplete (config : MarkerConfig) (text : List Char) : List Diagnostic :=
  if text.isEmpty then [] else IncompleteRule.all.filterMap (IncompleteRule.warning? config text)

end InlineMarkers.Validation
