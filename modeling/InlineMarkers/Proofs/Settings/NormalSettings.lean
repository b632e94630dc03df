import InlineMarkers.Proofs.Json.ReadValues
import InlineMarkers.Proofs.Settings.Bounds
import InlineMarkers.Proofs.Validation.ColorCheck
import InlineMarkers.Proofs.Value.Attempts

/-!
# Normal settings

Whatever value is given for settings, a configuration comes out whose settings all
have the form that they must have; only where a colour or the view has more digits
than can be written, nothing comes out, and no value that JSON can spell has.  Each
setting depends on what is given for it alone, but for the two years, which are put
in order together.  What has its form already is read as it is, so nothing changes
when a configuration is written as settings and read again.
-/

namespace InlineMarkers

open Text

/-- What a setting must be, with the value that stands for it when what is given cannot be used. -/
inductive SettingForm where
  | switch (standard : Bool)
  /-- A whole number within bounds. -/
  | whole (low high standard : Nat)
  | firstYear
  | lastYear
  | view
  | color (standard : String)
  deriving DecidableEq, Repr

namespace SettingForm

/-- The values of a form. -/
def Admits : SettingForm → Value → Prop
  | switch _, value => ∃ isOn, value = .bool isOn
  | whole low high _, value => ∃ n : Nat, value = .int n ∧ low ≤ n ∧ n ≤ high
  | firstYear, value | lastYear, value => ∃ year : Nat, value = .int year ∧ 1 ≤ year ∧ year ≤ 9999
  | view, value => value = .text "popup" ∨ value = .text "panel"
  | color _, value => ∃ digits, value = .text (String.ofList ('#' :: digits)) ∧
      (digits.length = 3 ∨ digits.length = 6) ∧ ∀ c ∈ digits, Lexeme.isHexDigit c = true

/-- A form that its own standard has, for a setting of some name.  The years and the view are
settings of one name each. -/
def Suits (name : String) : SettingForm → Prop
  | switch _ => True
  | whole low high standard => low ≤ standard ∧ standard ≤ high
  | firstYear => name = "year_min"
  | lastYear => name = "year_max"
  | view => name = "completion_ui"
  | color standard => MarkerConfig.isColor standard.toList = true

instance (name : String) : DecidablePred (Suits name)
  | switch _ => inferInstanceAs (Decidable True)
  | whole _ _ _ => inferInstanceAs (Decidable (_ ∧ _))
  | firstYear | lastYear | view => inferInstanceAs (Decidable (_ = _))
  | color _ => inferInstanceAs (Decidable (_ = true))

/-- What becomes of a setting of a form. -/
def read (name : String) (settings : Value) : SettingForm → Value
  | switch standard => .bool (MarkerConfig.switchSetting settings name standard)
  | whole low high standard => .int (MarkerConfig.wholeSetting settings name low high standard)
  | firstYear => .int (MarkerConfig.yearSettings settings).1
  | lastYear => .int (MarkerConfig.yearSettings settings).2
  | view => .text (MarkerConfig.viewSetting settings).name
  | color standard =>
      .text (String.ofList (MarkerConfig.colorSetting settings name standard.toList))

end SettingForm

/-- The settings and their forms. -/
def settingForms : List (String × SettingForm) :=
  [("enabled", .switch true), ("tooltip_delay_ms", .whole 100 2000 600),
    ("max_buffer_chars", .whole 256 2000000 20000), ("tag_scan_max_chars", .whole 16 10000 500),
    ("priority_partial_max_len", .whole 0 8 2), ("assignee_partial_max_len", .whole 0 8 1),
    ("tag_max_length", .whole 4 1000 50), ("assignee_max_length", .whole 4 1000 30),
    ("tag_checkboxes", .switch true), ("suggestions_enabled", .switch true),
    ("incomplete_min_length", .whole 1 100 2), ("incomplete_color_min_length", .whole 1 100 6),
    ("year_min", .firstYear), ("year_max", .lastYear),
    ("completion_cache_capacity", .whole 1 5000 50), ("completion_popup_limit", .whole 1 100 10),
    ("completion_panel_limit", .whole 1 100 8), ("completion_ui", .view),
    ("error_color", .color "#E35D6A"), ("warning_color", .color "#D6A54A"),
    ("suggestion_color", .color "#6AA1FF")]

/-- The settings by which a setting is judged: the setting itself, and both years for each of
them. -/
def judgedBy (name : String) : List String :=
  if name = "year_min" ∨ name = "year_max" then ["year_min", "year_max"] else [name]

namespace MarkerConfig

variable {settings other : Value} {name : String} {low high fallback : Nat} {form : SettingForm}

/-! ## What has its form is read as it is -/

theorem isColor_iff {color : List Char} :
    isColor color = true ↔ ∃ digits, color = '#' :: digits ∧
      (digits.length = 3 ∨ digits.length = 6) ∧ ∀ c ∈ digits, Lexeme.isHexDigit c = true := by
  unfold isColor
  split
  · simp [Lexeme.isHexWord]
  · rename_i unmarked
    simp only [Bool.false_eq_true, false_iff]
    rintro ⟨digits, rfl, -⟩
    exact unmarked digits rfl

theorem isBlank_of_isColor {color : List Char} {c : Char} (isColor : isColor color = true)
    (member : c ∈ color) : isBlank c = false := by
  obtain ⟨digits, rfl, -, hex⟩ := isColor_iff.mp isColor
  rcases List.mem_cons.mp member with rfl | inDigits
  · decide
  · exact isBlank_of_isAlphanum (Validation.isAlphanum_of_isHexDigit (hex c inDigits))

theorem wholeSetting_of_member {n : Nat} (isMember : settings.member? name = some (.int n))
    (above : low ≤ n) (below : n ≤ high) : wholeSetting settings name low high fallback = n := by
  simp only [wholeSetting, isMember, clamped, Value.toInteger_int, Int.toNat_natCast]
  omega

theorem textSetting?_of_member {text : String}
    (isMember : settings.member? name = some (.text text)) :
    textSetting? settings name = some text.toList := by
  rw [textSetting?, isMember, Option.bind_some, Value.displayIfTrue_text]
  rfl

theorem colorSetting_of_member {color standard : List Char} (isColor : isColor color = true)
    (isMember : settings.member? name = some (.text (String.ofList color))) :
    colorSetting settings name standard = color := by
  simp only [colorSetting, textSetting?_of_member isMember, String.toList_ofList,
    trim_of_no_blanks fun _ => isBlank_of_isColor isColor, isColor, if_true]

theorem viewSetting_of_member {view : CompletionView}
    (isMember : settings.member? "completion_ui" = some (.text view.name)) :
    viewSetting settings = view := by
  rw [viewSetting, textSetting?_of_member isMember]
  cases view <;> decide

theorem yearSettings_of_members {first last : Nat}
    (isFirst : settings.member? "year_min" = some (.int first))
    (isLast : settings.member? "year_max" = some (.int last))
    (above : 1 ≤ first) (ordered : first ≤ last) (below : last ≤ 9999) :
    yearSettings settings = (first, last) := by
  rw [yearSettings, wholeSetting_of_member isFirst above (Nat.le_trans ordered below),
    wholeSetting_of_member isLast (Nat.le_trans above ordered) below]
  exact if_neg (Nat.not_lt.mpr ordered)

/-! ## What is read has its form -/

theorem isColor_colorSetting {standard : List Char} (isColor' : isColor standard = true)
    (settings : Value) (name : String) : isColor (colorSetting settings name standard) = true := by
  unfold colorSetting
  split
  · dsimp only
    split
    · assumption
    · exact isColor'
  · exact isColor'

theorem yearSettings_bounds (settings : Value) :
    1 ≤ (yearSettings settings).1 ∧ (yearSettings settings).1 ≤ (yearSettings settings).2 ∧
      (yearSettings settings).2 ≤ 9999 := by
  have first : 1 ≤ wholeSetting settings "year_min" 1 9999 1900 ∧
      wholeSetting settings "year_min" 1 9999 1900 ≤ 9999 :=
    wholeSetting_bounds (by decide) settings "year_min"
  have last : 1 ≤ wholeSetting settings "year_max" 1 9999 2100 ∧
      wholeSetting settings "year_max" 1 9999 2100 ≤ 9999 :=
    wholeSetting_bounds (by decide) settings "year_max"
  unfold yearSettings
  dsimp only
  split
  · decide
  · dsimp only
    omega

theorem admits_read (suits : form.Suits name) (settings : Value) :
    form.Admits (form.read name settings) := by
  cases form with
  | switch standard => exact ⟨_, rfl⟩
  | whole low high standard => exact ⟨_, rfl, wholeSetting_bounds suits settings name⟩
  | firstYear =>
      obtain ⟨above, ordered, below⟩ := yearSettings_bounds settings
      exact ⟨_, rfl, above, Nat.le_trans ordered below⟩
  | lastYear =>
      obtain ⟨above, ordered, below⟩ := yearSettings_bounds settings
      exact ⟨_, rfl, Nat.le_trans above ordered, below⟩
  | view =>
      simp only [SettingForm.read, SettingForm.Admits]
      cases viewSetting settings with
      | popup => exact .inl rfl
      | panel => exact .inr rfl
  | color standard =>
      obtain ⟨digits, isColor, shape⟩ :=
        isColor_iff.mp (isColor_colorSetting suits settings name)
      exact ⟨digits, congrArg (fun color => Value.text (String.ofList color)) isColor, shape⟩

/-! ## Each setting on its own -/

theorem mem_judgedBy (name : String) : name ∈ judgedBy name := by
  unfold judgedBy
  split
  · rename_i isYear
    simpa using isYear
  · exact List.mem_singleton_self name

theorem wholeSetting_congr (same : settings.member? name = other.member? name)
    (low high fallback : Nat) :
    wholeSetting settings name low high fallback = wholeSetting other name low high fallback := by
  simp only [wholeSetting, same]

theorem yearSettings_congr (first : settings.member? "year_min" = other.member? "year_min")
    (last : settings.member? "year_max" = other.member? "year_max") :
    yearSettings settings = yearSettings other := by
  rw [yearSettings, wholeSetting_congr first, wholeSetting_congr last]
  rfl

theorem read_congr (suits : form.Suits name)
    (agree : ∀ key ∈ judgedBy name, settings.member? key = other.member? key) :
    form.read name settings = form.read name other := by
  have same := agree name (mem_judgedBy name)
  cases form with
  | switch standard => simp only [SettingForm.read, switchSetting, same]
  | whole low high standard =>
      simp only [SettingForm.read, wholeSetting_congr same low high standard]
  | firstYear | lastYear =>
      obtain rfl : name = _ := suits
      simp only [SettingForm.read,
        yearSettings_congr (agree "year_min" (by decide)) (agree "year_max" (by decide))]
  | view =>
      obtain rfl : name = _ := suits
      simp only [SettingForm.read, viewSetting, textSetting?, same]
  | color standard => simp only [SettingForm.read, colorSetting, textSetting?, same]

/-! ## All settings -/

theorem suits_of_mem (member : (name, form) ∈ settingForms) : form.Suits name := by
  have all : ∀ entry ∈ settingForms, entry.2.Suits entry.1 := by decide
  exact all (name, form) member

theorem nodup_settingForms : (settingForms.map Prod.fst).Nodup := by
  decide

theorem toValue_ofValue (settings : Value) :
    (ofValue settings).toValue =
      .object (settingForms.map fun entry => (entry.1, entry.2.read entry.1 settings)) :=
  rfl

theorem names_toValue (settings : Value) :
    (ofValue settings).toValue.members.map Prod.fst = settingForms.map Prod.fst :=
  rfl

theorem member?_toValue (settings : Value) (member : (name, form) ∈ settingForms) :
    (ofValue settings).toValue.member? name = some (form.read name settings) := by
  have distinct : (ofValue settings).toValue.members.Distinct := nodup_settingForms
  have isMember : (name, form.read name settings) ∈ (ofValue settings).toValue.members := by
    rw [toValue_ofValue, Value.members]
    exact List.mem_map.mpr ⟨(name, form), member, rfl⟩
  exact Members.get?_of_mem distinct isMember

theorem member?_toValue_of_notMem (settings : Value)
    (unknown : name ∉ settingForms.map Prod.fst) :
    (ofValue settings).toValue.member? name = none := by
  rw [← names_toValue settings] at unknown
  rw [← Option.not_isSome_iff_eq_none]
  exact fun found => unknown (Members.get?_isSome.mp found)

/-- A setting that is written from a configuration is read as it was. -/
theorem read_toValue (member : (name, form) ∈ settingForms) (settings : Value) :
    form.read name (ofValue settings).toValue = form.read name settings := by
  have isMember := member?_toValue settings member
  have suits := suits_of_mem member
  obtain ⟨above, ordered, below⟩ := yearSettings_bounds settings
  -- The years that are written are in order, so they do not fall back a second time.
  have years : yearSettings (ofValue settings).toValue = yearSettings settings :=
    yearSettings_of_members rfl rfl above ordered below
  cases form with
  | switch standard => simp only [SettingForm.read, switchSetting, isMember, Value.isTrue]
  | whole low high standard =>
      have bounds := wholeSetting_bounds suits settings name
      exact congrArg (fun n : Nat => Value.int n)
        (wholeSetting_of_member isMember bounds.1 bounds.2)
  | firstYear | lastYear => simp only [SettingForm.read, years]
  | view =>
      obtain rfl : name = _ := suits
      exact congrArg (fun view => Value.text view.name) (viewSetting_of_member isMember)
  | color standard =>
      exact congrArg (fun color => Value.text (String.ofList color))
        (colorSetting_of_member (isColor_colorSetting suits settings name) isMember)

/-! ## Settings that come out -/

/-- The settings that are read as texts can be written as texts. -/
def TextsSpellable (settings : Value) : Prop :=
  ∀ name ∈ textSettings, ∀ value, settings.member? name = some value → value.isSpellable = true

theorem textsSpellable_of_isJson (json : settings.IsJson) : TextsSpellable settings :=
  fun _ _ _ isMember => (json.member? isMember).isSpellable

theorem exists_normalize_iff :
    (∃ config, normalize settings = .ok config) ↔ TextsSpellable settings := by
  have shown : (∃ texts, (textSettings.filterMap settings.member?).mapM Value.displayIfTrue =
      .ok texts) ↔ TextsSpellable settings := by
    simp only [exists_mapM_iff, Value.exists_displayIfTrue_iff, List.mem_filterMap,
      TextsSpellable, forall_exists_index, and_imp]
    exact ⟨fun all name known value => all value name known,
      fun all value name known => all name known value⟩
  rw [← shown]
  constructor
  · rintro ⟨config, comesOut⟩
    obtain ⟨texts, displayed, -⟩ := bind_eq_ok_iff.mp comesOut
    exact ⟨texts, displayed⟩
  · rintro ⟨texts, displayed⟩
    exact ⟨_, bind_eq_ok_iff.mpr ⟨texts, displayed, rfl⟩⟩

theorem eq_ofValue_of_normalize {config : MarkerConfig}
    (comesOut : normalize settings = .ok config) : config = ofValue settings := by
  obtain ⟨texts, -, same⟩ := bind_eq_ok_iff.mp comesOut
  exact (Except.ok.inj same).symm

/-- What is written from a configuration is read again without fail. -/
theorem normalize_toValue (settings : Value) :
    normalize (ofValue settings).toValue = .ok (ofValue (ofValue settings).toValue) := by
  have texts : TextsSpellable (ofValue settings).toValue := by
    intro name known value isMember
    simp only [textSettings, List.mem_cons, List.not_mem_nil, or_false] at known
    rcases known with rfl | rfl | rfl | rfl <;> (cases isMember; rfl)
  obtain ⟨config, comesOut⟩ := exists_normalize_iff.mpr texts
  rw [comesOut, eq_ofValue_of_normalize comesOut]

theorem toValue_ofValue_toValue (settings : Value) :
    (ofValue (ofValue settings).toValue).toValue = (ofValue settings).toValue := by
  have unchanged : ∀ entry ∈ settingForms,
      (entry.1, entry.2.read entry.1 (ofValue settings).toValue) =
        (entry.1, entry.2.read entry.1 settings) :=
    fun entry member => congrArg (Prod.mk entry.1) (read_toValue member settings)
  rw [toValue_ofValue (ofValue settings).toValue, List.map_congr_left unchanged]
  rfl

end MarkerConfig

end InlineMarkers
