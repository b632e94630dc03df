import InlineMarkers.Marker.Lexeme
import InlineMarkers.Text.Search
import InlineMarkers.Value.Numeral

/-!
# The marker under the cursor

A completion needs to know which marker is being typed and what is typed of it.
Only the last 256 characters before the cursor count.  A marker is open when its
opening is followed, up to the cursor, by nothing that would close it; of
several open markers the one that starts last is being typed.  A number sign
inside an open colour belongs to the colour, and an at sign inside an open user
name to the user name.  In a list of tags the last one is being typed.
-/

namespace InlineMarkers

open Text

/-- A marker that is being typed. -/
structure CompletionContext where
  kind : MarkerKind
  /-- What is typed of the value. -/
  query : List Char
  triggerStart : Nat
  /-- Where the text starts that a completion replaces. -/
  anchorStart : Nat
  /-- Where it stops: at the cursor. -/
  anchorStop : Nat
  deriving DecidableEq, Repr

namespace CompletionContext

/-- How many characters before the cursor count. -/
def window : Nat := 256

/-- Whether a character may stand in a value of a kind that is still being typed. -/
def isOpenCharacter (kind : MarkerKind) (c : Char) : Bool :=
  match kind with
  | .tag => !(c == '[' || c == ']')
  | .color => !(c == ':' || isBlank c)
  | .priority => !(c == '#' || isBlank c)
  | .date => !(c == '@' || isBlank c)
  | .assignee => !(c == '+' || isBlank c)

/-- An opening in any case and the characters of an open value, up to the end of the text. -/
def openMarker (kind : MarkerKind) : Pattern := fun _ text =>
  let lead := kind.opening.length
  if (text.take lead).map Char.toLower == kind.opening then
    let query := (text.drop lead).takeWhile (isOpenCharacter kind)
    if atEnd (text.drop (lead + query.length)) then some (text.take (lead + query.length)) else none
  else none

/-- The open marker of a kind at the end of a text, if there is one. -/
def open? (kind : MarkerKind) (text : List Char) : Option Found :=
  (openMarker kind).first? text

/-- Whether an open marker is part of another one: a priority inside a colour, or a date inside
a user name. -/
def isInside (text : List Char) (kind : MarkerKind) (found : Found) : Bool :=
  match kind with
  | .priority => (open? .color text).any fun color => color.position ≤ found.position
  | .date => (open? .assignee text).any fun assignee => assignee.position < found.position
  | _ => false

/-- The open marker of a kind, unless it is part of another one. -/
def candidate? (text : List Char) (kind : MarkerKind) : Option (MarkerKind × Found) :=
  ((open? kind text).filter (!isInside text kind ·)).map (kind, ·)

/-- Of two open markers the one that starts later. -/
def later (best next : Option (MarkerKind × Found)) : Option (MarkerKind × Found) :=
  match best, next with
  | some (_, left), some (kind, right) =>
      if left.position < right.position then some (kind, right) else best
  | none, next => next
  | best, none => best

def last? (text : List Char) : Option (MarkerKind × Found) :=
  ([.date, .priority, .color, .tag, .assignee].map (candidate? text)).foldl later none

def lastSegment (text : List Char) : List Char :=
  (text.reverse.takeWhile (· != ',')).reverse

/-- The context of an open marker in a text that stands at `base` and stops at the cursor. -/
def ofOpen (base cursor : Nat) (kind : MarkerKind) (found : Found) : CompletionContext :=
  let query := found.text.drop kind.opening.length
  let start := base + found.position
  let queryStart := start + kind.opening.length
  if kind = .tag ∧ query.contains ',' then
    let typed := trimStart (lastSegment query)
    { kind
      query := trimEnd typed
      triggerStart := start
      anchorStart := queryStart + query.length - typed.length
      anchorStop := cursor }
  else
    { kind, query, triggerStart := start, anchorStart := queryStart, anchorStop := cursor }

/-- The marker that is being typed at a cursor; without a cursor, at the end of the text.  A
cursor outside the text is moved to its nearer end. -/
def detect (text : List Char) (cursor : Option Int) : Option CompletionContext :=
  let cursor := (cursor.map fun c => min c.toNat text.length).getD text.length
  let base := cursor - window
  (last? (slice text base cursor)).map fun (kind, found) => ofOpen base cursor kind found

/-- The same for a text and a cursor of unknown shape: nothing is typed in what is not a text,
and null is no cursor. -/
def detectValue (text cursor : Value) : Except NumeralError (Option CompletionContext) :=
  match text with
  | .text text =>
      if cursor.isNull then .ok (detect text.toList none)
      else cursor.toInteger.map fun position => detect text.toList (some position)
  | _ => .ok none

end CompletionContext

end InlineMarkers
