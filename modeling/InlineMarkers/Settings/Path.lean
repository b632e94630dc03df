import InlineMarkers.Text.Blank
import InlineMarkers.Text.Fields

/-!
# Where the settings file is

The settings file lies in a directory that the environment names, or else in a
hidden directory of the user's home.  A path is a root and the names on the way;
doubled slashes and single dots say nothing and vanish, while exactly two
slashes in front are a root of their own.
-/

namespace InlineMarkers

open Text

/-- A path: its root, which is empty for a relative path, and its names. -/
structure SettingsPath where
  root : List Char
  names : List (List Char)
  deriving DecidableEq, Repr

/-- Why a path cannot be made. -/
inductive PathError where
  /-- The path starts at the home of a user whose home is not known. -/
  | unknownHome
  deriving DecidableEq, Repr

namespace SettingsPath

/-- The root that a path's slashes in front are. -/
def rootOf : List Char → List Char
  | '/' :: '/' :: '/' :: _ => ['/']
  | '/' :: '/' :: _ => ['/', '/']
  | '/' :: _ => ['/']
  | _ => []

def ofText (text : List Char) : SettingsPath :=
  ⟨rootOf text, (fields '/' text).filter fun name => !(name.isEmpty || name == ['.'])⟩

def text (path : SettingsPath) : List Char :=
  match path.root, path.names with
  | [], [] => ['.']
  | root, names => root ++ joinFields '/' names

/-- How many bytes the system takes a text for. -/
def byteCount : List Char → Nat
  | [] => 0
  | c :: rest => c.utf8Size + byteCount rest

theorem byteCount_replicate (count : Nat) (c : Char) :
    byteCount (List.replicate count c) = count * c.utf8Size := by
  induction count with
  | zero => exact (Nat.zero_mul _).symm
  | succ count ih => rw [List.replicate_succ, byteCount, ih, Nat.succ_mul, Nat.add_comm]

/-- Whether the system will not look for a path because of its length: a path may have 4095 bytes
and a name 255.  The first name is always looked for, the others only in directories that are
there. -/
def isTooLong (path : SettingsPath) : Bool :=
  4095 < byteCount path.text || path.names.head?.any fun name => 255 < byteCount name

theorem isTooLong_of_name {path : SettingsPath} {name : List Char}
    (isFirst : path.names.head? = some name) (long : 255 < byteCount name) :
    path.isTooLong = true := by
  rw [isTooLong, isFirst, Option.any_some, decide_eq_true long, Bool.or_true]

/-- The path of a name in a directory. -/
def join (directory : SettingsPath) (name : List Char) : SettingsPath :=
  { directory with names := directory.names ++ [name] }

/-- A path with a tilde in front replaced by the user's home. -/
def expandHome (home : SettingsPath) (path : SettingsPath) : Except PathError SettingsPath :=
  match path.root, path.names with
  | [], ['~'] :: names => .ok { home with names := home.names ++ names }
  | [], ('~' :: _) :: _ => .error .unknownHome
  | _, _ => .ok path

def fileName : List Char :=
  "settings.json".toList

def homeDirectory : List Char :=
  ".notemark".toList

/-- The path of the settings file, given the user's home and what the environment says about
its directory; blanks around that are ignored. -/
def standard (home : SettingsPath) (directory : Option (List Char)) :
    Except PathError SettingsPath :=
  match trim (directory.getD []) with
  | [] => .ok ((home.join homeDirectory).join fileName)
  | named => (expandHome home (ofText named)).map (·.join fileName)

end SettingsPath

end InlineMarkers
