import InlineMarkers.Proofs.Settings.SavedSettings
import InlineMarkers.Settings.Session
import InlineMarkers.Startup
import Mathlib.Data.List.Induction

/-!
# Runs of the settings store

A load brings what the file holds, completed by the defaults, or the defaults
alone, and it forgets what the store held before.  It fails in one case only: where
the system does not tell whether there is a file.  Then the settings stay as they
were, and only the error of the load before is forgotten.  What the store remembers
of the file is about an earlier load: that there was nothing to load, or why loading
fell back to the defaults.  A save that succeeds settles both, and so does the next
load, except that a load that fails leaves it open whether there was nothing.
-/

namespace InlineMarkers

variable {file : SettingsFile} {members : Members} {cause : SettingsError}

namespace SettingsFile

/-- There is nothing at the path, and nothing in the way of it. -/
def IsVacant (file : SettingsFile) : Prop :=
  file = .missing ∨ file = .barred

/-- The file holds the text of an object with these members. -/
inductive Holds : SettingsFile → Members → Prop
  | object {file : SettingsFile} {text : String} {members : Members}
      (stored : file.bytes? = some text.toUTF8)
      (spelled : Json.read? text.toList = some (.object members)) : Holds file members

/-- There is something at the path or in the way of it that cannot be used, for this cause. -/
inductive FailsWith : SettingsFile → SettingsError → Prop
  | directory : FailsWith .directory .unreadable
  | blocked : FailsWith .blocked .unreadable
  | notText {file : SettingsFile} {bytes : ByteArray} (stored : file.bytes? = some bytes)
      (foreign : ∀ text : String, text.toUTF8 ≠ bytes) : FailsWith file .unreadable
  | notJson {file : SettingsFile} {text : String} (stored : file.bytes? = some text.toUTF8)
      (misspelt : Json.read? text.toList = none) : FailsWith file .unreadable
  | notObject {file : SettingsFile} {text : String} {value : Value}
      (stored : file.bytes? = some text.toUTF8) (spelled : Json.read? text.toList = some value)
      (other : ∀ members, value ≠ .object members) :
      FailsWith file (.notAnObject value.kindName)

/-- What can come of looking for a file and reading it. -/
inductive Found : SettingsFile → Prop
  | vacant {file : SettingsFile} (vacant : file.IsVacant) : Found file
  | holds {file : SettingsFile} {members : Members} (holds : file.Holds members) : Found file
  | fails {file : SettingsFile} {cause : SettingsError} (fails : file.FailsWith cause) : Found file
  | unreachable : Found .unreachable

theorem toUTF8_of_fromUTF8? {bytes : ByteArray} {text : String}
    (decoded : String.fromUTF8? bytes = some text) : text.toUTF8 = bytes := by
  rw [String.fromUTF8?] at decoded
  split at decoded
  · rw [← Option.some.inj decoded]
    rfl
  · simp at decoded

theorem there_of_bytes {bytes : ByteArray} (stored : file.bytes? = some bytes) :
    file.isThere = .ok true ∧ file.read = readBytes bytes := by
  cases file with
  | content other | readOnly other =>
      obtain rfl := Option.some.inj stored
      exact ⟨rfl, rfl⟩
  | _ => cases stored

theorem read_of_vacant (vacant : file.IsVacant) :
    file.isThere = .ok false ∧ file.read = .ok [] := by
  rcases vacant with rfl | rfl <;> exact ⟨rfl, rfl⟩

theorem read_of_holds (holds : file.Holds members) :
    file.isThere = .ok true ∧ file.read = .ok members := by
  obtain ⟨stored, spelled⟩ := holds
  obtain ⟨there, read⟩ := there_of_bytes stored
  refine ⟨there, ?_⟩
  simp only [read, readBytes, fromUTF8?_toUTF8, Option.bind_some, spelled]

theorem read_of_failsWith (fails : file.FailsWith cause) :
    (∃ there, file.isThere = .ok there) ∧ file.read = .error cause := by
  cases fails with
  | directory | blocked => exact ⟨⟨_, rfl⟩, rfl⟩
  | @notText _ bytes stored foreign =>
      obtain ⟨there, read⟩ := there_of_bytes stored
      have undecoded : String.fromUTF8? bytes = none := by
        rw [Option.eq_none_iff_forall_not_mem]
        exact fun text decoded => foreign text (toUTF8_of_fromUTF8? decoded)
      refine ⟨⟨_, there⟩, ?_⟩
      simp only [read, readBytes, undecoded, Option.bind_none]
  | notJson stored misspelt =>
      obtain ⟨there, read⟩ := there_of_bytes stored
      refine ⟨⟨_, there⟩, ?_⟩
      simp only [read, readBytes, fromUTF8?_toUTF8, Option.bind_some, misspelt]
  | @notObject _ text value stored spelled other =>
      obtain ⟨there, read⟩ := there_of_bytes stored
      refine ⟨⟨_, there⟩, ?_⟩
      simp only [read, readBytes, fromUTF8?_toUTF8, Option.bind_some, spelled]

theorem Holds.not_vacant (holds : file.Holds members) : ¬file.IsVacant := by
  intro vacant
  have there := (read_of_holds holds).1
  rw [(read_of_vacant vacant).1] at there
  cases there

theorem Holds.not_failsWith (holds : file.Holds members) : ¬file.FailsWith cause := by
  intro fails
  have read := (read_of_holds holds).2
  rw [(read_of_failsWith fails).2] at read
  cases read

theorem FailsWith.not_vacant (fails : file.FailsWith cause) : ¬file.IsVacant := by
  intro vacant
  have read := (read_of_vacant vacant).2
  rw [(read_of_failsWith fails).2] at read
  cases read

theorem found_of_bytes {bytes : ByteArray} (stored : file.bytes? = some bytes) : file.Found := by
  by_cases decoded : ∃ text : String, text.toUTF8 = bytes
  · obtain ⟨text, rfl⟩ := decoded
    cases spelled : Json.read? text.toList with
    | none => exact .fails (.notJson stored spelled)
    | some value =>
        by_cases isObject : ∃ members, value = .object members
        · obtain ⟨members, rfl⟩ := isObject
          exact .holds (.object stored spelled)
        · exact .fails (.notObject stored spelled fun members same => isObject ⟨members, same⟩)
  · exact .fails (.notText stored fun text same => decoded ⟨text, same⟩)

theorem found (file : SettingsFile) : file.Found := by
  cases file with
  | missing => exact .vacant (.inl rfl)
  | barred => exact .vacant (.inr rfl)
  | content bytes | readOnly bytes => exact found_of_bytes rfl
  | directory => exact .fails .directory
  | blocked => exact .fails .blocked
  | unreachable => exact .unreachable

end SettingsFile

namespace SettingsStore

theorem load_of_vacant (store : SettingsStore) (vacant : file.IsVacant) :
    store.load file = (.ok (Members.merge [] store.defaults),
      { store with
        data := Members.merge [] store.defaults, dirty := true, lastError := none }) := by
  obtain ⟨there, read⟩ := SettingsFile.read_of_vacant vacant
  rw [load, there, read]
  rfl

theorem load_of_holds (store : SettingsStore) (holds : file.Holds members) :
    store.load file = (.ok (Members.merge members store.defaults),
      { store with
        data := Members.merge members store.defaults, dirty := false, lastError := none }) := by
  obtain ⟨there, read⟩ := SettingsFile.read_of_holds holds
  rw [load, there, read]
  rfl

theorem load_of_failsWith (store : SettingsStore) (fails : file.FailsWith cause) :
    store.load file = (.ok (Members.merge [] store.defaults),
      { store with
        data := Members.merge [] store.defaults, dirty := false, lastError := some cause }) := by
  obtain ⟨⟨there, found⟩, read⟩ := SettingsFile.read_of_failsWith fails
  rw [load, found, read]

theorem load_unreachable (store : SettingsStore) :
    store.load .unreachable = (.error .unreachable, { store with lastError := none }) :=
  rfl

/-- What a load that comes to its end leaves of a store depends on the file and the defaults
alone. -/
theorem load_spec (store : SettingsStore) (reachable : file ≠ .unreachable) :
    ∃ members, (file.Holds members ∨ members = [] ∧ ∀ other, ¬file.Holds other) ∧
      (store.load file).1 = .ok (Members.merge members store.defaults) ∧
      (store.load file).2.data = Members.merge members store.defaults ∧
      ((store.load file).2.dirty = true ↔ file.IsVacant) := by
  cases file.found with
  | vacant vacant =>
      rw [load_of_vacant store vacant]
      exact ⟨[], .inr ⟨rfl, fun other holds => holds.not_vacant vacant⟩, rfl, rfl,
        iff_of_true rfl vacant⟩
  | @holds _ members holds =>
      rw [load_of_holds store holds]
      exact ⟨members, .inl holds, rfl, rfl, iff_of_false nofun holds.not_vacant⟩
  | fails fails =>
      rw [load_of_failsWith store fails]
      exact ⟨[], .inr ⟨rfl, fun other holds => holds.not_failsWith fails⟩, rfl, rfl,
        iff_of_false nofun fails.not_vacant⟩
  | unreachable => exact absurd rfl reachable

/-- A load notes why it fell back to the defaults, if it did. -/
theorem lastError_load_iff (store : SettingsStore) (file : SettingsFile) (cause : SettingsError) :
    (store.load file).2.lastError = some cause ↔ file.FailsWith cause := by
  cases file.found with
  | vacant vacant =>
      rw [load_of_vacant store vacant]
      exact iff_of_false nofun fun fails => fails.not_vacant vacant
  | holds holds =>
      rw [load_of_holds store holds]
      exact iff_of_false nofun holds.not_failsWith
  | fails fails =>
      rw [load_of_failsWith store fails, Option.some.injEq]
      refine ⟨fun same => same ▸ fails, fun other => ?_⟩
      have read := (SettingsFile.read_of_failsWith fails).2
      rw [(SettingsFile.read_of_failsWith other).2, Except.error.injEq] at read
      exact read.symm
  | unreachable =>
      rw [load_unreachable]
      refine iff_of_false nofun fun fails => ?_
      obtain ⟨⟨there, found⟩, -⟩ := SettingsFile.read_of_failsWith fails
      cases found

/-- The start of the program leaves alone whatever stands at the path already. -/
theorem startUp_of_reachable (defaults : Members) (there : file ≠ .missing)
    (reachable : file ≠ .unreachable) : ∃ store, startUp defaults file = .ok (store, file) := by
  by_cases vacant : file.IsVacant
  · rcases vacant with rfl | rfl
    · exact absurd rfl there
    · exact ⟨_, rfl⟩
  · obtain ⟨members, -, answer, -, dirty⟩ := (ofDefaults defaults).load_spec reachable
    have clean : ((ofDefaults defaults).load file).2.dirty = false := by
      rwa [← Bool.not_eq_true, dirty]
    obtain ⟨isThere, found⟩ := SettingsFile.exists_isThere reachable
    refine ⟨((ofDefaults defaults).load file).2, ?_⟩
    simp only [startUp, answer, found, clean, bind, Except.bind, Bool.false_and,
      Bool.false_eq_true, if_false]
    rfl

end SettingsStore

namespace SettingsSession

variable {first : SettingsSession} {actions : List SettingsAction} {action : SettingsAction}
  {settles : SettingsSession → SettingsAction → Prop} {P : SettingsFile → Prop}

theorem run_concat (first : SettingsSession) (actions : List SettingsAction)
    (action : SettingsAction) :
    first.run (actions ++ [action]) = ((first.run actions).step action).2 := by
  simp only [run, List.foldl_concat]

/-- An action does not fail. -/
def Succeeds (session : SettingsSession) (action : SettingsAction) : Prop :=
  ∃ members, (session.step action).1 = .ok members

/-- After this action it does not matter any more why a load fell back to the defaults: it is the
next load, or a save that succeeds. -/
def SettlesError (session : SettingsSession) (action : SettingsAction) : Prop :=
  action = .load ∨ action = .save ∧ session.Succeeds .save

/-- After this action it does not matter any more that a load found nothing: it is a load or a save
that succeeds. -/
def SettlesDirt (session : SettingsSession) (action : SettingsAction) : Prop :=
  (action = .load ∨ action = .save) ∧ session.Succeeds action

/-- A file was loaded that had a property then, and no action since then has settled that. -/
def StandsSinceLoad (first : SettingsSession) (actions : List SettingsAction)
    (settles : SettingsSession → SettingsAction → Prop) (P : SettingsFile → Prop) : Prop :=
  ∃ before after, actions = before ++ .load :: after ∧ P (first.run before).file ∧
    ∀ earlier action later, after = earlier ++ action :: later →
      ¬settles (first.run (before ++ .load :: earlier)) action

theorem not_standsSinceLoad_nil : ¬first.StandsSinceLoad [] settles P := by
  rintro ⟨before, after, split, -⟩
  simp at split

theorem standsSinceLoad_concat :
    first.StandsSinceLoad (actions ++ [action]) settles P ↔
      action = .load ∧ P (first.run actions).file ∨
        first.StandsSinceLoad actions settles P ∧ ¬settles (first.run actions) action := by
  constructor
  · rintro ⟨before, after, split, holds, unsettled⟩
    rcases List.eq_nil_or_concat after with rfl | ⟨others, last, rfl⟩
    · obtain ⟨rfl, sameLast⟩ := List.append_inj' split rfl
      exact .inl ⟨List.singleton_inj.mp sameLast, holds⟩
    · rw [List.concat_eq_append] at unsettled split
      rw [← List.cons_append, ← List.append_assoc] at split
      obtain ⟨rfl, sameLast⟩ := List.append_inj' split rfl
      obtain rfl := List.singleton_inj.mp sameLast
      refine .inr ⟨⟨before, others, rfl, holds, ?_⟩, unsettled others action [] rfl⟩
      rintro earlier other later rfl
      exact unsettled earlier other (later ++ [action]) (by simp)
  · rintro (⟨rfl, holds⟩ | ⟨⟨before, after, rfl, holds, unsettled⟩, unsettledLast⟩)
    · exact ⟨actions, [], rfl, holds, fun earlier other later split => by simp at split⟩
    · refine ⟨before, after ++ [action], by simp, holds, fun earlier other later split => ?_⟩
      rcases List.eq_nil_or_concat later with rfl | ⟨others, last, rfl⟩
      · obtain ⟨rfl, sameLast⟩ := List.append_inj' split rfl
        obtain rfl := List.singleton_inj.mp sameLast
        exact unsettledLast
      · rw [List.concat_eq_append, ← List.cons_append, ← List.append_assoc] at split
        obtain ⟨rfl, -⟩ := List.append_inj' split rfl
        exact unsettled earlier other others rfl

/-- What an action notes, or leaves noted, is noted after a run when it stands since a load. -/
theorem noted_run_iff {Q : SettingsStore → Prop} (initially : ¬Q first.store)
    (step : ∀ (session : SettingsSession) (action : SettingsAction),
      Q (session.step action).2.store ↔
        action = .load ∧ P session.file ∨ Q session.store ∧ ¬settles session action)
    (actions : List SettingsAction) :
    Q (first.run actions).store ↔ first.StandsSinceLoad actions settles P := by
  induction actions using List.reverseRecOn with
  | nil => exact iff_of_false initially not_standsSinceLoad_nil
  | append_singleton actions action ih => rw [run_concat, step, standsSinceLoad_concat, ih]

theorem step_load (session : SettingsSession) :
    session.step .load = ((session.store.load session.file).1,
      { session with store := (session.store.load session.file).2 }) :=
  rfl

/-- A save fails, or it settles what the store notes of its file. -/
theorem step_save_cases (session : SettingsSession) :
    ¬session.Succeeds .save ∨ session.Succeeds .save ∧
      ∃ file, (session.step .save).2 =
        ⟨file, { session.store with dirty := false, lastError := none }⟩ := by
  cases written : session.file.write session.store.data with
  | error cause =>
      left
      rintro ⟨members, succeeds⟩
      simp [step, SettingsStore.save, written, Except.map] at succeeds
  | ok file =>
      right
      exact ⟨⟨session.store.data, by simp [step, SettingsStore.save, written, Except.map]⟩,
        file, by simp [step, SettingsStore.save, written, Except.map]⟩

theorem step_save_of_fails {session : SettingsSession} (fails : ¬session.Succeeds .save) :
    (session.step .save).2 = session := by
  cases answer : (session.step .save).1 with
  | ok members => exact absurd ⟨members, answer⟩ fails
  | error cause => exact step_of_error nofun answer

theorem lastError_step (cause : SettingsError) (session : SettingsSession)
    (action : SettingsAction) :
    (session.step action).2.store.lastError = some cause ↔
      action = .load ∧ session.file.FailsWith cause ∨
        session.store.lastError = some cause ∧ ¬session.SettlesError action := by
  cases action with
  | load =>
      have noted := session.store.lastError_load_iff session.file cause
      simpa [step_load, SettlesError] using noted
  | save =>
      rcases session.step_save_cases with fails | ⟨succeeds, file, settled⟩
      · simp [step_save_of_fails fails, SettlesError, fails]
      · simp [settled, SettlesError, succeeds]
  | read => simp [step, SettlesError]
  | set name value => simp [step, SettlesError, SettingsStore.set]
  | change file => simp [step, SettlesError]

theorem succeeds_load_iff (session : SettingsSession) :
    session.Succeeds .load ↔ session.file ≠ .unreachable := by
  constructor
  · rintro ⟨members, succeeds⟩ unreachable
    rw [step, unreachable] at succeeds
    cases succeeds
  · intro reachable
    obtain ⟨members, -, answer, -⟩ := session.store.load_spec reachable
    exact ⟨_, answer⟩

theorem dirty_step (session : SettingsSession) (action : SettingsAction) :
    (session.step action).2.store.dirty = true ↔
      action = .load ∧ session.file.IsVacant ∨
        session.store.dirty = true ∧ ¬session.SettlesDirt action := by
  cases action with
  | load =>
      by_cases unreachable : session.file = .unreachable
      · have failed : ¬session.Succeeds .load := by
          rw [succeeds_load_iff]
          exact not_not_intro unreachable
        simp [step_load, unreachable, SettlesDirt, failed, SettingsStore.load_unreachable,
          SettingsFile.IsVacant]
      · obtain ⟨_, -, -, -, dirty⟩ := session.store.load_spec unreachable
        simpa [step_load, SettlesDirt, succeeds_load_iff, unreachable] using dirty
  | save =>
      rcases session.step_save_cases with fails | ⟨succeeds, file, settled⟩
      · simp [step_save_of_fails fails, SettlesDirt, fails]
      · simp [settled, SettlesDirt, succeeds]
  | read => simp [step, SettlesDirt]
  | set name value => simp [step, SettlesDirt, SettingsStore.set]
  | change file => simp [step, SettlesDirt]

/-- The defaults are those of the beginning. -/
theorem defaults_run (first : SettingsSession) (actions : List SettingsAction) :
    (first.run actions).store.defaults = first.store.defaults := by
  induction actions using List.reverseRecOn with
  | nil => rfl
  | append_singleton actions action ih =>
      rw [run_concat, ← ih]
      cases action with
      | load =>
          simp only [step, SettingsStore.load]
          split
          · rfl
          · split <;> rfl
      | read => rfl
      | change file => rfl
      | set name value => rfl
      | save =>
          rcases (first.run actions).step_save_cases with fails | ⟨-, file, settled⟩
          · rw [step_save_of_fails fails]
          · rw [settled]

theorem read_or_save_of_error {session : SettingsSession} (other : action ≠ .load)
    (failed : (session.step action).1 = .error cause) : action = .read ∨ action = .save := by
  cases action with
  | load => exact absurd rfl other
  | read => exact .inl rfl
  | save => exact .inr rfl
  | _ => simp [step] at failed

/-- Whatever stood at the path at first, and whatever is done with the store and its file: where the
system tells whether there is a file, a load brings the defaults under what the file holds, the
store has to be written for the first time only if there is nothing, and the program starts without
touching what there is.  Where the system does not tell, a load fails and only forgets the error of
the load before, and the program does not start.  A read or a save that fails changes nothing.  The
error that the store remembers is that of its last load, until a save succeeds, and it has to be
written for the first time if the last load that succeeded found nothing. -/
theorem store_run (defaults : Members) (file : SettingsFile) (actions : List SettingsAction) :
    let session := (start defaults file).run actions
    let loaded := session.step .load
    (session.file ≠ .unreachable →
      (∃ members,
        (session.file.Holds members ∨ members = [] ∧ ∀ other, ¬session.file.Holds other) ∧
        loaded.1 = .ok (Members.merge members defaults) ∧
        loaded.2.store.data = Members.merge members defaults ∧ loaded.2.file = session.file) ∧
      (loaded.2.store.dirty = true ↔ session.file.IsVacant) ∧
      (session.file ≠ .missing →
        ∃ store, SettingsStore.startUp defaults session.file = .ok (store, session.file))) ∧
    (session.file = .unreachable →
      loaded = (.error .unreachable,
        { session with store := { session.store with lastError := none } }) ∧
      SettingsStore.startUp defaults session.file = .error .unreachable) ∧
    (∀ action cause, action ≠ .load → (session.step action).1 = .error cause →
      (action = .read ∨ action = .save) ∧ (session.step action).2 = session) ∧
    (∀ cause, session.store.lastError = some cause ↔
      (start defaults file).StandsSinceLoad actions SettlesError (·.FailsWith cause)) ∧
    (session.store.dirty = true ↔
      (start defaults file).StandsSinceLoad actions SettlesDirt SettingsFile.IsVacant) := by
  intro session loaded
  have sameDefaults : session.store.defaults = defaults :=
    defaults_run (start defaults file) actions
  refine ⟨fun reachable => ?_, fun unreachable => ?_,
    fun action cause other failed =>
      ⟨read_or_save_of_error other failed, step_of_error other failed⟩,
    fun cause => ?_, ?_⟩
  · obtain ⟨members, holds, answer, data, dirty⟩ := session.store.load_spec reachable
    rw [sameDefaults] at answer data
    exact ⟨⟨members, holds, answer, data, rfl⟩, dirty,
      fun there => SettingsStore.startUp_of_reachable defaults there reachable⟩
  · rw [unreachable]
    refine ⟨?_, rfl⟩
    simp only [loaded, step_load, unreachable, SettingsStore.load_unreachable]
  · exact noted_run_iff (Q := fun store => store.lastError = some cause)
      (Option.some_ne_none cause).symm (lastError_step cause) actions
  · exact noted_run_iff (Q := fun store => store.dirty = true) Bool.false_ne_true dirty_step actions

/-- A directory stands at the path: neither loading nor saving can use it, and the store says so
to the end. -/
theorem store_run_of_directory :
    let actions : List SettingsAction := [.load, .set "a" .null, .read, .save]
    let first := start [("a", .int 1)] .directory
    let session := first.run actions
    session.file ≠ .unreachable ∧ session.file ≠ .missing ∧
      (session.step .save).1 = .error .unwritable ∧
      (session.step .save).2 = session ∧ session.store.lastError = some .unreadable ∧
      (∃ store, SettingsStore.startUp [("a", .int 1)] session.file = .ok (store, session.file)) ∧
      first.StandsSinceLoad actions SettlesError (·.FailsWith .unreadable) := by
  intro actions first session
  obtain ⟨reachable, -, unchanged, error, -⟩ := store_run [("a", .int 1)] .directory actions
  have found : session.file ≠ .unreachable := nofun
  have there : session.file ≠ .missing := nofun
  have failed : (session.step .save).1 = .error .unwritable := rfl
  have noted : session.store.lastError = some .unreadable := rfl
  exact ⟨found, there, failed, (unchanged .save _ nofun failed).2, noted,
    (reachable found).2.2 there, (error _).mp noted⟩

/-- Under a name of five thousand letters there is nothing, but the system does not say so: a load
fails, and so does the start of the program. -/
theorem exists_failed_load :
    let path : SettingsPath := ⟨['/'], [List.replicate 5000 'a']⟩
    let session := start SettingsStore.standardDefaults (path.find .missing)
    (session.step .load).1 = .error .unreachable ∧
      SettingsStore.startUp SettingsStore.standardDefaults session.file = .error .unreachable := by
  intro path session
  have bytes := SettingsPath.byteCount_replicate 5000 'a'
  rw [show 'a'.utf8Size = 1 from rfl] at bytes
  have isFirst : path.names.head? = some (List.replicate 5000 'a') := rfl
  have tooLong : path.isTooLong = true := SettingsPath.isTooLong_of_name isFirst (by omega)
  have unreachable : path.find .missing = .unreachable := if_pos tooLong
  simp only [session, unreachable]
  exact ⟨rfl, rfl⟩

end SettingsSession

end InlineMarkers
