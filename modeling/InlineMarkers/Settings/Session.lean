import InlineMarkers.Settings.Store

/-!
# Sessions of the settings store

A session is a store together with what stands at the path of its file.  The
file changes when the store is saved, and anything may come to stand there from
outside at any time; the store notices that only when it is loaded again.
-/

namespace InlineMarkers

/-- A store and its file. -/
structure SettingsSession where
  file : SettingsFile
  store : SettingsStore

inductive SettingsAction where
  | load
  /-- The file is read, but the settings in memory stay. -/
  | read
  | save
  /-- One member of the settings in memory is changed. -/
  | set (name : String) (value : Value)
  /-- Someone else changes what stands at the path. -/
  | change (file : SettingsFile)

/-- Someone else writes a text into the file. -/
def SettingsAction.overwrite (text : List Char) : SettingsAction :=
  .change (SettingsFile.ofText text)

namespace SettingsSession

def start (defaults : Members) (file : SettingsFile) : SettingsSession :=
  ⟨file, SettingsStore.ofDefaults defaults⟩

/-- What an action hands back, and the session after it.  Reading hands back what the file
holds; all other actions hand back the settings in memory. -/
def step (session : SettingsSession) :
    SettingsAction → Except SettingsError Members × SettingsSession
  | .load =>
      let (loaded, store) := session.store.load session.file
      (loaded, { session with store })
  | .read => (session.file.read, session)
  | .save =>
      match session.store.save session.file with
      | .ok (file, store) => (.ok store.data, ⟨file, store⟩)
      | .error cause => (.error cause, session)
  | .set name value =>
      let store := session.store.set name value
      (.ok store.data, { session with store })
  | .change file => (.ok session.store.data, { session with file })

def run (session : SettingsSession) (actions : List SettingsAction) : SettingsSession :=
  actions.foldl (fun session action => (session.step action).2) session

/-- A read or a save that fails leaves the session as it was. -/
theorem step_of_error {session : SettingsSession} {action : SettingsAction}
    {cause : SettingsError} (other : action ≠ .load)
    (failed : (session.step action).1 = .error cause) :
    (session.step action).2 = session := by
  cases action with
  | load => exact absurd rfl other
  | read => rfl
  | save =>
    simp only [step] at failed ⊢
    split at failed
    · simp at failed
    · rfl
  | set name value => simp [step] at failed
  | change file => simp [step] at failed

end SettingsSession

end InlineMarkers
