/-!
# Kinds of markers

A note may hold five kinds of inline markers.  Each has a name and an opening,
the characters that start it.
-/

namespace InlineMarkers

/-- The kinds of inline markers. -/
inductive MarkerKind where
  /-- A word in square brackets. -/
  | tag
  /-- A hexadecimal colour after the word color and a colon. -/
  | color
  /-- A word after a number sign. -/
  | priority
  /-- A keyword or a date after an at sign. -/
  | date
  /-- A user name after a plus sign. -/
  | assignee
  deriving DecidableEq, Repr

namespace MarkerKind

def all : List MarkerKind :=
  [.tag, .color, .priority, .date, .assignee]

def name : MarkerKind → String
  | .tag => "tag"
  | .color => "color"
  | .priority => "priority"
  | .date => "date"
  | .assignee => "assignee"

def ofName? (name : String) : Option MarkerKind :=
  all.find? (·.name == name)

/-- The characters that start a marker of a kind. -/
def opening : MarkerKind → List Char
  | .tag => ['[']
  | .color => ['c', 'o', 'l', 'o', 'r', ':']
  | .priority => ['#']
  | .date => ['@']
  | .assignee => ['+']

@[simp] theorem ofName?_name (kind : MarkerKind) : ofName? kind.name = some kind := by
  cases kind <;> decide

end MarkerKind

end InlineMarkers
