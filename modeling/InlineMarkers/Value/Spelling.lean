import InlineMarkers.Value.Numeral

/-!
# What can be written as text

An integer is written as text only if it has no more digits than a numeral may
have, so whatever is written can be read again.  A value can be written if all
the integers in it can.
-/

namespace InlineMarkers

/-- Why a value cannot be written as text. -/
inductive SpellingError where
  /-- An integer in the value has too many digits. -/
  | tooManyDigits
  deriving DecidableEq, Repr

/-- Whether an integer has no more digits than a numeral may have. -/
def Numeral.isShort (n : Int) : Bool :=
  (Nat.toDigits 10 n.natAbs).length ≤ digitLimit

namespace Value

mutual

/-- Whether all integers in a value are short enough to be written as text. -/
def isSpellable : Value → Bool
  | int value => Numeral.isShort value
  | array items => areSpellable items
  | object members => areSpellableMembers members
  | _ => true
termination_by structural value => value

def areSpellable : List Value → Bool
  | [] => true
  | item :: rest => isSpellable item && areSpellable rest
termination_by structural items => items

def areSpellableMembers : List (String × Value) → Bool
  | [] => true
  | (_, value) :: rest => isSpellable value && areSpellableMembers rest
termination_by structural members => members

end

theorem isSpellable_array (items : List Value) :
    (array items).isSpellable = items.all isSpellable := by
  rw [isSpellable]
  induction items with
  | nil => rfl
  | cons item rest ih => rw [areSpellable, ih, List.all_cons]

theorem isSpellable_object (members : Members) :
    (object members).isSpellable = members.all fun member => member.2.isSpellable := by
  rw [isSpellable]
  induction members with
  | nil => rfl
  | cons member rest ih => rw [areSpellableMembers, ih, List.all_cons]

end Value

end InlineMarkers
