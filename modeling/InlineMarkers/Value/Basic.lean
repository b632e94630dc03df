import InlineMarkers.Value.Binary64

/-!
# Values of unknown shape

Settings files, settings and foreign diagnostics hold values whose shape is not
known beforehand.  A `Value` is such a value; an object is a list of named
members in their order, and a name given twice counts once.
-/

namespace InlineMarkers

/-- A value of any shape. -/
inductive Value where
  | null
  | bool (value : Bool)
  | int (value : Int)
  | float (value : Binary64)
  | text (value : String)
  | array (items : List Value)
  | object (members : List (String × Value))
  deriving Repr, Inhabited

abbrev Members := List (String × Value)

namespace Members

/-- The value of the first member with a name. -/
def get? (members : Members) (name : String) : Option Value :=
  (members.find? (·.1 == name)).map (·.2)

def has (members : Members) (name : String) : Bool :=
  members.any (·.1 == name)

/-- Gives a member a value: in its place if the name is there, at the end otherwise. -/
def set : Members → String → Value → Members
  | [], name, value => [(name, value)]
  | (key, old) :: rest, name, value =>
      if key == name then (key, value) :: rest else (key, old) :: set rest name value

/-- The members of a list in which a later value of a name replaces an earlier one. -/
def ofList (pairs : List (String × Value)) : Members :=
  pairs.foldl (fun members pair => members.set pair.1 pair.2) []

@[simp] theorem get?_nil (name : String) : get? [] name = none := rfl

/-- A member that was set is found with its new value; the others stay as they were. -/
theorem get?_set (members : Members) (name other : String) (value : Value) :
    (members.set name value).get? other =
      if name = other then some value else members.get? other := by
  induction members with
  | nil => by_cases same : name = other <;> simp [set, get?, same]
  | cons member rest ih =>
    obtain ⟨key, old⟩ := member
    simp only [set]
    by_cases isKey : key = name
    · subst isKey
      by_cases same : key = other <;> simp [get?, same]
    · simp only [beq_iff_eq, isKey, if_false]
      by_cases isOther : key = other
      · subst isOther
        simp [get?, Ne.symm isKey]
      · have step : ∀ tail : Members, get? ((key, old) :: tail) other = get? tail other := by
          intro tail
          simp [get?, isOther]
        rw [step, step, ih]

end Members

namespace Value

/-- Whether a value counts as true: null, false, zero, and empty texts, arrays and objects
do not. -/
def isTrue : Value → Bool
  | null => false
  | bool value => value
  | int value => value != 0
  | float value => !value.isZero
  | text value => value != ""
  | array items => !items.isEmpty
  | object members => !members.isEmpty

/-- The member of an object with a name; other values have no members. -/
def member? : Value → String → Option Value
  | object members, name => Members.get? members name
  | _, _ => none

def members : Value → Members
  | object members => members
  | _ => []

def isNull : Value → Bool
  | null => true
  | _ => false

/-- The characters of a text; every other value counts as the empty text. -/
def asText : Value → List Char
  | text value => value.toList
  | _ => []

/-- The value of an optional text. -/
def ofText? : Option (List Char) → Value
  | some value => text (String.ofList value)
  | none => null

end Value

end InlineMarkers
