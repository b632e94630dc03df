import InlineMarkers.Value.Basic

/-!
# Equality of values by what they denote

Two values are the same when they denote the same thing: truth values, integers
and floating-point numbers are compared as numbers, and objects without regard
to the order of their members.  What is no number equals nothing, itself
included.
-/

namespace InlineMarkers.Value

/-- The number that a value denotes: numerator and denominator in lowest terms.  An
infinity is a fraction with denominator zero. -/
def number? : Value → Option (Int × Nat)
  | bool value => some (if value then 1 else 0, 1)
  | int value => some (value, 1)
  | float value =>
      if value.isNaN then none
      else if value.isInfinite then some (if value.isNegative then -1 else 1, 0)
      else
        let (numerator, denominator) := value.ratio
        let divisor := Nat.gcd numerator denominator
        let whole : Int := (numerator / divisor : Nat)
        some (if value.isNegative then -whole else whole, denominator / divisor)
  | _ => none

mutual

/-- Whether two values denote the same thing. -/
def same : Value → Value → Bool
  | null, null => true
  | text left, text right => left == right
  | array left, array right => sameItems left right
  | object left, object right => left.length == right.length && sameMembers left right
  | left, right =>
      match number? left, number? right with
      | some a, some b => a == b
      | _, _ => false
termination_by structural value => value

/-- Whether two lists hold the same items in the same order. -/
def sameItems : List Value → List Value → Bool
  | [], [] => true
  | left :: lefts, right :: rights => same left right && sameItems lefts rights
  | _, _ => false
termination_by structural items => items

/-- Whether every member of the first list has the same value in the second. -/
def sameMembers : List (String × Value) → List (String × Value) → Bool
  | [], _ => true
  | (name, value) :: rest, others =>
      (match Members.get? others name with
        | some other => same value other
        | none => false) && sameMembers rest others
termination_by structural members => members

end

end InlineMarkers.Value
