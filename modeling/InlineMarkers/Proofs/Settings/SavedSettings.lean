import InlineMarkers.Proofs.Json.RoundTrip
import InlineMarkers.Proofs.Settings.Defaults
import InlineMarkers.Settings.Store

/-!
# Settings that are loaded and saved

What a store has loaded, it saves so that any store with the same defaults loads
the same settings again, and saves the same file.  The file holds the members in
the order of their names and covers the defaults, so neither the reader nor the
defaults change anything the second time.
-/

namespace InlineMarkers

variable {file : SettingsFile} {members : Members}

namespace SettingsFile

theorem fromUTF8?_toUTF8 (text : String) : String.fromUTF8? text.toUTF8 = some text := by
  rw [String.fromUTF8?, String.toUTF8_eq_toByteArray, dif_pos text.isValidUTF8]
  rfl

theorem read_ofText {text : List Char} (read : Json.read? text = some (.object members)) :
    (ofText text).read = .ok members := by
  simp only [SettingsFile.read, ofText, readBytes, fromUTF8?_toUTF8, Option.bind_some,
    String.toList_ofList, read]

theorem exists_members {text : List Char}
    (isObject : (Json.read? text).map Value.kindName = some "dict") :
    ∃ members, Json.read? text = some (.object members) := by
  obtain ⟨value, read, kind⟩ := Option.map_eq_some_iff.mp isObject
  cases value with
  | object members => exact ⟨members, read⟩
  | _ => simp only [Value.kindName, String.reduceEq] at kind

/-- The settings in a file are values that JSON can spell. -/
theorem isJson_of_readBytes {bytes : ByteArray} (readable : readBytes bytes = .ok members) :
    (Value.object members).IsJson := by
  unfold readBytes at readable
  split at readable
  case h_2 found =>
      cases readable
      obtain ⟨text, -, read⟩ := Option.bind_eq_some_iff.mp found
      exact Json.isJson_of_read? read
  all_goals cases readable

theorem isJson_of_read (readable : file.read = .ok members) : (Value.object members).IsJson := by
  cases file with
  | content bytes | readOnly bytes => exact isJson_of_readBytes readable
  | missing | barred =>
      cases readable
      exact .object List.nodup_nil nofun
  | directory | blocked | unreachable => cases readable

theorem exists_isThere (reachable : file ≠ .unreachable) : ∃ there, file.isThere = .ok there := by
  cases file with
  | unreachable => exact absurd rfl reachable
  | _ => exact ⟨_, rfl⟩

theorem reachable_of_read (readable : file.read = .ok members) : file ≠ .unreachable := by
  rintro rfl
  cases readable

end SettingsFile

namespace SettingsStore

variable {text : List Char}

theorem load_of_read (store : SettingsStore) (readable : file.read = .ok members) :
    (store.load file).1 = .ok (Members.merge members store.defaults) ∧
      (store.load file).2.data = Members.merge members store.defaults ∧
      (store.load file).2.lastError = none := by
  obtain ⟨there, found⟩ :=
    SettingsFile.exists_isThere (SettingsFile.reachable_of_read readable)
  rw [load, found, readable]
  exact ⟨rfl, rfl, rfl⟩

theorem save_of_write (store : SettingsStore) (writable : file.isWritable = true)
    (written : Json.write (.object store.data) = .ok text) :
    store.save file =
      .ok (SettingsFile.ofText text, { store with dirty := false, lastError := none }) := by
  rw [save, SettingsFile.write, writable, written]
  rfl

/-- Whatever settings are loaded, they have a text, and that is what is saved.  Any store with the
same defaults loads the same settings from it, and saves the same text again. -/
theorem load_save (store fresh : SettingsStore) (sameDefaults : fresh.defaults = store.defaults)
    (json : ∃ text, Json.read? text = some (.object store.defaults)) (file : SettingsFile)
    (members : Members) (readable : file.read = .ok members) :
    let loaded := (store.load file).2
    ∃ text, Json.write (.object loaded.data) = .ok text ∧
      let written := SettingsFile.ofText text
      let reloaded := (fresh.load written).2
      (store.load file).1 = .ok loaded.data ∧
      (file.isWritable = true →
        loaded.save file = .ok (written, { loaded with dirty := false, lastError := none })) ∧
      (fresh.load written).1 = .ok reloaded.data ∧ reloaded.lastError = none ∧
      (Value.object reloaded.data).Alike (.object loaded.data) ∧
      Json.write (.object reloaded.data) = .ok text ∧
      reloaded.save written =
        .ok (written, { reloaded with dirty := false, lastError := none }) := by
  intro loaded
  obtain ⟨defaultsText, read⟩ := json
  have defaults := Json.isJson_of_read? read
  obtain ⟨answer, merged, -⟩ := store.load_of_read readable
  have isJson : (Value.object loaded.data).IsJson := by
    rw [merged, ← Members.mergeValue_object]
    exact defaults.mergeValue (SettingsFile.isJson_of_read readable)
  have covers : (Value.object loaded.data).Covers (.object fresh.defaults) := by
    rw [sameDefaults, merged, ← Members.mergeValue_object]
    exact defaults.covers_mergeValue _
  obtain ⟨text, hasText, readBack, sameText⟩ := Json.exists_write isJson
  obtain ⟨answerAgain, mergedAgain, noError⟩ :=
    fresh.load_of_read (SettingsFile.read_ofText readBack)
  -- the defaults are covered already, so loading only puts the members in order
  have sorted : Value.object (fresh.load (.ofText text)).2.data =
      (Value.object loaded.data).sorted := by
    rw [mergedAgain, ← Members.mergeValue_object]
    exact (covers.sorted isJson).mergeValue_eq
  rw [← sorted] at sameText
  refine ⟨text, hasText, ?_, fun writable => loaded.save_of_write writable hasText, ?_,
    noError, ?_, sameText, save_of_write _ rfl sameText⟩
  · rw [answer, merged]
  · rw [answerAgain, mergedAgain]
  · rw [sorted]
    exact isJson.alike_sorted

/-- A file with a name given twice, an escaped pair of surrogates, empty containers and numbers of
both kinds, which fills in part the object that the defaults hold. -/
theorem load_save_of_nested_settings :
    let defaultsText :=
      "\x7b\"markers\": \x7b\"year_min\": 1990\x7d, \"a\": \x7b\"z\": []\x7d\x7d".toList
    let text := "\x7b\"b\": [\x7b\x7d, \x7b\"y\": -2.5e3, \"x\": null\x7d], ".toList ++
      "\"\\ud83d\\ude00\": \"\\t\", \"markers\": \x7b\"enabled\": 0\x7d, ".toList ++
      "\"B\": 123456789012345678901234567890, \"b\": []\x7d".toList
    ∃ defaults members, Json.read? defaultsText = some (.object defaults) ∧
      (SettingsFile.ofText text).read = .ok members ∧
      let loaded := ((ofDefaults defaults).load (.ofText text)).2
      ∃ savedText, Json.write (.object loaded.data) = .ok savedText ∧
        let written := SettingsFile.ofText savedText
        let reloaded := ((ofDefaults defaults).load written).2
        loaded.save (.ofText text) =
          .ok (written, { loaded with dirty := false, lastError := none }) ∧
        reloaded.lastError = none ∧ (Value.object reloaded.data).Alike (.object loaded.data) ∧
        Json.write (.object reloaded.data) = .ok savedText ∧
        reloaded.save written =
          .ok (written, { reloaded with dirty := false, lastError := none }) := by
  intro defaultsText text
  obtain ⟨defaults, readDefaults⟩ :
      ∃ defaults, Json.read? defaultsText = some (.object defaults) :=
    SettingsFile.exists_members (by decide +kernel)
  obtain ⟨members, readText⟩ : ∃ members, Json.read? text = some (.object members) :=
    SettingsFile.exists_members (by decide +kernel)
  have readable := SettingsFile.read_ofText readText
  obtain ⟨savedText, hasText, -, saves, -, noError, alike, sameText, savesAgain⟩ :=
    load_save (ofDefaults defaults) (ofDefaults defaults) rfl ⟨defaultsText, readDefaults⟩
      (.ofText text) members readable
  exact ⟨defaults, members, readDefaults, readable, savedText, hasText, saves rfl, noError, alike,
    sameText, savesAgain⟩

end SettingsStore

end InlineMarkers
