import InlineMarkers.Startup

/-!
# The command line

The program sets up its log, finds its settings file, loads it and writes it if
it does not exist yet.
-/

open InlineMarkers

/-- What is there at a path where there is something; whether a file can be written is only found
out by writing it. -/
def standingFileAt (path : String) : IO SettingsFile := do
  try
    return .content (← IO.FS.readBinFile path)
  catch _ =>
    return .directory

def settingsFileAt (path : String) : IO SettingsFile := do
  try
    let _ ← IO.FS.realPath path
    standingFileAt path
  catch
    | .noFileOrDirectory .. => return .missing
    | .inappropriateType .. => return .blocked
    | _ => return .unreachable

/-- Writes a settings file together with the directories above it. -/
def writeSettingsFile (path : SettingsPath) (bytes : ByteArray) : IO Unit := do
  let directory : SettingsPath := { path with names := path.names.dropLast }
  IO.FS.createDirAll (String.ofList directory.text)
  IO.FS.writeBinFile (String.ofList path.text) bytes

def main (arguments : List String) : IO UInt32 := do
  let found := StartupArguments.read arguments
  let verbosity ← IO.getEnv "NOTEMARK_VERBOSE"
  let logging := Logging.initial.configure found.verbose (verbosity.map String.toList)
  let home ← IO.getEnv "HOME"
  let directory ← IO.getEnv "NOTEMARK_SETTINGS_DIR"
  let homePath := SettingsPath.ofText (home.getD "/").toList
  match found.path homePath (directory.map String.toList) with
  | .error .unknownHome =>
      IO.eprintln "Could not determine home directory."
      return 1
  | .ok path =>
      let before ← settingsFileAt (String.ofList path.text)
      if logging.level == .debug then
        IO.eprintln (String.ofList path.text)
      match SettingsStore.startUp SettingsStore.standardDefaults before with
      | .error cause =>
          IO.eprintln cause.message
          return 1
      | .ok (store, after) =>
          if let some cause := store.lastError then
            IO.eprintln cause.message
          match before, after with
          | .missing, .content bytes =>
              try
                writeSettingsFile path bytes
              catch _ =>
                IO.eprintln SettingsError.unwritable.message
          | _, _ => pure ()
          return 0
