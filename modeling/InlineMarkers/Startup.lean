import InlineMarkers.Logging
import InlineMarkers.Settings.Path
import InlineMarkers.Settings.Store

/-!
# Starting the program

The command line may ask for verbose logging and name another settings file; all
other arguments are left for the window.  Then the log is set up and the
settings are loaded.
-/

namespace InlineMarkers

/-- What the system finds at a path at which something stands. -/
def SettingsPath.find (path : SettingsPath) (standing : SettingsFile) : SettingsFile :=
  if path.isTooLong then .unreachable else standing

structure StartupArguments where
  /-- The arguments that are not the program's own. -/
  rest : List String
  settingsPath : Option String
  verbose : Bool
  deriving DecidableEq, Repr

namespace StartupArguments

/-- The argument that asks for verbose logging. -/
def verboseFlag : String := "--verbose"

/-- The argument that is followed by the path of the settings file. -/
def settingsFlag : String := "--settings"

/-- The path in an argument that joins the settings flag and the path by an equals sign. -/
def joinedPath? (argument : String) : Option String :=
  let lead := (settingsFlag ++ "=").toList
  if lead.isPrefixOf argument.toList then some (String.ofList (argument.toList.drop lead.length))
  else none

/-- The arguments read in their order, after those that are read already.  A later path
replaces an earlier one, and a flag without a path takes it back. -/
def readFrom (found : StartupArguments) : List String → StartupArguments
  | [] => found
  | argument :: others =>
      if argument == verboseFlag then readFrom { found with verbose := true } others
      else if argument == settingsFlag then
        match others with
        | [] => { found with settingsPath := none }
        | path :: others => readFrom { found with settingsPath := some path } others
      else
        match joinedPath? argument with
        | some path => readFrom { found with settingsPath := some path } others
        | none => readFrom { found with rest := found.rest ++ [argument] } others

/-- The program's own arguments and the rest; an empty path is none. -/
def read (arguments : List String) : StartupArguments :=
  let found := readFrom ⟨[], none, false⟩ arguments
  { found with settingsPath := found.settingsPath.filter (· != "") }

/-- The path of the settings file that the arguments name, or else the standard one. -/
def path (arguments : StartupArguments) (home : SettingsPath) (directory : Option (List Char)) :
    Except PathError SettingsPath :=
  match arguments.settingsPath with
  | some path => .ok (SettingsPath.ofText path.toList)
  | none => SettingsPath.standard home directory

end StartupArguments

end InlineMarkers
