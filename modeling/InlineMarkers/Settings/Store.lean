import InlineMarkers.Json.Reader
import InlineMarkers.Json.Writer
import InlineMarkers.Settings.MarkerConfig
import InlineMarkers.Settings.Merge

/-!
# The settings store

Settings are kept in a JSON file.  A store holds the settings in memory: what
the file holds, completed by defaults, or the defaults alone when the file
cannot be used.  A store whose file does not exist yet is dirty, which tells the
program to write the file; a file that exists, usable or not, is never
overwritten at the start.  Only where the system does not tell whether there is
a file, loading fails, and so does the start of the program.
-/

namespace InlineMarkers

/-- What stands at the path of a settings file. -/
inductive SettingsFile where
  /-- Nothing, and a file can be made there. -/
  | missing
  /-- Nothing, and no file can be made there. -/
  | barred
  /-- A file that can be read and written. -/
  | content (bytes : ByteArray)
  /-- A file that can be read but not written. -/
  | readOnly (bytes : ByteArray)
  /-- A directory, or something else that can be neither read nor written. -/
  | directory
  /-- Nothing, since a file stands in the place of the directory that it should be in. -/
  | blocked
  /-- The system does not tell: the path is too long, or a directory on the way may not be
  searched. -/
  | unreachable

/-- Why settings could not be read or written. -/
inductive SettingsError where
  | unreadable
  | unwritable
  /-- The file holds a value of this kind in the place of an object. -/
  | notAnObject (kind : String)
  /-- The system does not tell whether there is a file.  This is an error of the system, which
  the store only passes on. -/
  | unreachable
  deriving DecidableEq, Repr

namespace SettingsError

def message : SettingsError → String
  | unreadable => "Could not read settings file"
  | unwritable => "Could not write settings file"
  | notAnObject kind => s!"Settings root must be a JSON object, found {kind}."
  | unreachable => "Could not look for settings file"

end SettingsError

namespace Value

def kindName : Value → String
  | null => "NoneType"
  | bool _ => "bool"
  | int _ => "int"
  | float _ => "float"
  | text _ => "str"
  | array _ => "list"
  | object _ => "dict"

end Value

namespace SettingsFile

def ofText (text : List Char) : SettingsFile :=
  content (String.ofList text).toUTF8

/-- The bytes of a file that can be read. -/
def bytes? : SettingsFile → Option ByteArray
  | content bytes | readOnly bytes => some bytes
  | _ => none

def text? (file : SettingsFile) : Option String :=
  file.bytes?.bind String.fromUTF8?

/-- Whether there is anything at the path, as far as the system tells. -/
def isThere : SettingsFile → Except SettingsError Bool
  | content _ | readOnly _ | directory => .ok true
  | missing | barred | blocked => .ok false
  | unreachable => .error .unreachable

def isWritable : SettingsFile → Bool
  | missing | content _ => true
  | _ => false

/-- The settings that the bytes of a file spell. -/
def readBytes (bytes : ByteArray) : Except SettingsError Members :=
  match (String.fromUTF8? bytes).bind fun text => Json.read? text.toList with
  | none => .error .unreadable
  | some (.object members) => .ok members
  | some value => .error (.notAnObject value.kindName)

/-- The settings in a file; a missing file holds none. -/
def read : SettingsFile → Except SettingsError Members
  | missing | barred => .ok []
  | content bytes | readOnly bytes => readBytes bytes
  | directory | blocked | unreachable => .error .unreadable

/-- The path after settings are written to it. -/
def write (file : SettingsFile) (members : Members) : Except SettingsError SettingsFile :=
  match file.isWritable, Json.write (.object members) with
  | true, .ok text => .ok (ofText text)
  | _, _ => .error .unwritable

end SettingsFile

structure SettingsStore where
  defaults : Members
  data : Members
  /-- Whether the file still has to be written for the first time. -/
  dirty : Bool
  /-- Why the last load fell back to the defaults, if it did. -/
  lastError : Option SettingsError
  deriving Repr

namespace SettingsStore

def ofDefaults (defaults : Members) : SettingsStore :=
  ⟨defaults, Members.merge [] defaults, false, none⟩

/-- The name of the member that holds the marker settings. -/
def markersName : String := "markers"

/-- The defaults of the program: the standard marker settings. -/
def standardDefaults : Members :=
  [(markersName, MarkerConfig.standard.toValue)]

/-- What loading hands back, and the store after it.  The error of the load before is forgotten
first, also where the load fails. -/
def load (store : SettingsStore) (file : SettingsFile) :
    Except SettingsError Members × SettingsStore :=
  let store := { store with lastError := none }
  match file.isThere with
  | .error cause => (.error cause, store)
  | .ok there =>
      match file.read with
      | .ok members =>
          let data := Members.merge members store.defaults
          (.ok data, { store with data, dirty := !there })
      | .error cause =>
          let data := Members.merge [] store.defaults
          (.ok data, { store with data, dirty := false, lastError := some cause })

def save (store : SettingsStore) (file : SettingsFile) :
    Except SettingsError (SettingsFile × SettingsStore) :=
  (file.write store.data).map fun file => (file, { store with dirty := false, lastError := none })

def get (store : SettingsStore) (path : List Char) (default : Value) : Value :=
  (Value.object store.data).dotGet path default

def set (store : SettingsStore) (name : String) (value : Value) : SettingsStore :=
  { store with data := store.data.set name value }

def markerConfig (store : SettingsStore) : Except SpellingError MarkerConfig :=
  MarkerConfig.normalize (store.get markersName.toList (.object []))

/-- The store and the file as the program starts: the file is loaded, and written if there is
none.  If it cannot be written, the program goes on without it. -/
def startUp (defaults : Members) (file : SettingsFile) :
    Except SettingsError (SettingsStore × SettingsFile) := do
  let (loaded, store) := (ofDefaults defaults).load file
  let _ ← loaded
  let there ← file.isThere
  if store.dirty && !there then
    match store.save file with
    | .ok (file, store) => return (store, file)
    | .error _ => return (store, file)
  else return (store, file)

end SettingsStore

end InlineMarkers
