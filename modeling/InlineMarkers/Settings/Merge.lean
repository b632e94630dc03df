import InlineMarkers.Text.Fields
import InlineMarkers.Value.Basic

/-!
# Defaults and dotted paths

Settings are completed by defaults at every depth: a member that is there stays
as it is, whatever its value, unless it and its default are both objects, which
are then merged in turn.  Settings inside settings are looked up by paths whose
names are written with dots between them.
-/

namespace InlineMarkers.Members

mutual

/-- A value completed by its default. -/
def mergeValue : Value → Value → Value
  | .object members, .object defaults => .object (merge members defaults)
  | value, _ => value
termination_by structural _ default => default

/-- Members completed by their defaults; missing ones come last, in the order of the
defaults. -/
def merge : Members → List (String × Value) → Members
  | members, [] => members
  | members, (name, default) :: rest =>
      match members.get? name with
      | some value => merge (members.set name (mergeValue value default)) rest
      | none => merge (members.set name default) rest
termination_by structural _ defaults => defaults

end

end InlineMarkers.Members

namespace InlineMarkers.Value

/-- The value at the end of a path of names, if every value on the way has the next member. -/
def atPath? : Value → List String → Option Value
  | value, [] => some value
  | value, name :: rest => (value.member? name).bind (atPath? · rest)

/-- The names of a dotted path. -/
def pathNames (path : List Char) : List String :=
  (Text.fields '.' path).map String.ofList

/-- The value at a dotted path, or another one if there is none; the empty path stands for
the value itself. -/
def dotGet (value : Value) (path : List Char) (default : Value) : Value :=
  if path.isEmpty then value else (value.atPath? (pathNames path)).getD default

end InlineMarkers.Value
