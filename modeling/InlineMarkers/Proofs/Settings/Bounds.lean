import InlineMarkers.Settings.MarkerConfig

/-!
# Bounds of settings

Every setting that is a number lies in its range, whatever the settings hold.
-/

namespace InlineMarkers.MarkerConfig

variable {low high fallback : Nat}

theorem clamped_bounds (inside : low ≤ fallback ∧ fallback ≤ high) (value : Value) :
    low ≤ clamped value low high fallback ∧ clamped value low high fallback ≤ high := by
  simp only [clamped]
  split <;> omega

theorem wholeSetting_bounds (inside : low ≤ fallback ∧ fallback ≤ high) (settings : Value)
    (name : String) :
    low ≤ wholeSetting settings name low high fallback ∧
      wholeSetting settings name low high fallback ≤ high := by
  simp only [wholeSetting]
  split
  · exact clamped_bounds inside _
  · exact inside

theorem maxTagLength_ofValue (settings : Value) : 4 ≤ (ofValue settings).maxTagLength :=
  (wholeSetting_bounds (by decide) settings _).1

theorem maxAssigneeLength_ofValue (settings : Value) :
    4 ≤ (ofValue settings).maxAssigneeLength :=
  (wholeSetting_bounds (by decide) settings _).1

theorem maxNoteLength_ofValue (settings : Value) : 256 ≤ (ofValue settings).maxNoteLength :=
  (wholeSetting_bounds (by decide) settings _).1

end InlineMarkers.MarkerConfig
