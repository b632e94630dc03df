import InlineMarkers.Proofs.Validation.LocalFix
import InlineMarkers.Proofs.Validation.NotePasses

/-!
# Where the diagnostics of a note stand

Every range that a pass of a validation reports lies in the note and is not
empty, so no diagnostic is lost.  Those of the markers stand in the order of the
markers, one for a marker at most, and no two of them share a character.
-/

namespace InlineMarkers

open Text Tokenizer Validation Calendar

variable {text : List Char} {config : MarkerConfig} {today : Date} {faults : Faults}
  {marker : Marker} {diagnostic : Diagnostic}

/-- The range that a diagnostic of a marker points at: the value, or the whole marker when it is
a pair of empty brackets. -/
def Marker.flaggedRange (marker : Marker) : Nat × Nat :=
  if marker.kind = .tag ∧ marker.value = [] then (marker.markerStart, marker.markerStop)
  else (marker.start, marker.stop)

/-- One range stops where another one starts, or before, and starts before it. -/
def Diagnostic.Precedes (first second : Diagnostic) : Prop :=
  first.start < second.start ∧ first.stop ≤ second.start

namespace Validation

theorem range_eq_flaggedRange (member : marker ∈ tokenize text)
    (found : validateMarker faults config today marker = some diagnostic) :
    (diagnostic.start, diagnostic.stop) =
      ((marker.flaggedRange.1 : Int), (marker.flaggedRange.2 : Int)) := by
  cases diagnose_flags found with
  | value nonempty _ reports =>
      have size := (standsIn_of_mem member).value_length
      rw [Marker.flaggedRange, if_neg (fun brackets => nonempty brackets.2), reports.start_eq,
        reports.stop_eq, ← size, Int.natCast_add]
  | brackets isTag empty _ reports =>
      obtain ⟨before, rest, -, rfl⟩ := parts_of_empty_tag member isTag empty
      rw [Marker.flaggedRange, if_pos ⟨rfl, rfl⟩, reports.start_eq, reports.stop_eq]
      simp only [List.length_cons, List.length_nil, Prod.mk.injEq]
      omega

theorem fits_of_validateMarker (member : marker ∈ tokenize text)
    (found : validateMarker faults config today marker = some diagnostic) :
    diagnostic.fits text.length = true := by
  have inside := (standsIn_of_mem member).inside
  obtain ⟨starts, filled, stops, -⟩ := validateMarker_range member found
  rw [Diagnostic.fits_iff]
  omega

theorem NoteFinding.fits (finding : NoteFinding config today text diagnostic) :
    diagnostic.fits text.length = true := by
  cases finding with
  | marker marker member _ found => exact fits_of_validateMarker member found
  | incomplete member => exact fits_of_mem_findIncomplete member
  | suggestion member => exact fits_of_mem_findSuggestions member

/-- A note of one character has no marker with a diagnostic, so the check of its length costs
nothing. -/
theorem validateMarkers_tokenize :
    validateMarkers faults config today text (tokenize text) =
      (tokenize text).filterMap (validateMarker faults config today) := by
  unfold validateMarkers
  split
  · rename_i short
    rw [eq_comm, List.filterMap_eq_nil_iff]
    intro marker member
    rw [Option.eq_none_iff_forall_ne_some]
    intro diagnostic found
    obtain ⟨-, -, -, size⟩ := validateMarker_range member found
    have inside := (standsIn_of_mem member).inside
    omega
  · rfl

theorem pairwise_validateMarkers :
    (validateMarkers faults config today text (tokenize text)).Pairwise Diagnostic.Precedes := by
  have ordered : (tokenize text).Pairwise Marker.Precedes := pairwise_walkFrom 0 text
  rw [validateMarkers_tokenize, List.pairwise_filterMap]
  refine ordered.imp_of_mem ?_
  intro first second isFirst isSecond precedes reported foundFirst reportedNext foundSecond
  obtain ⟨-, filled, stops, -⟩ := validateMarker_range isFirst foundFirst
  obtain ⟨starts, -, -, -⟩ := validateMarker_range isSecond foundSecond
  rw [Marker.Precedes] at precedes
  rw [Diagnostic.Precedes]
  omega

/-- What a partial function finds in a list, beside the elements in which it finds it. -/
theorem forall₂_filterMap {α β : Type} {check : α → Option β} {related : α → β → Prop}
    {items : List α} (relates : ∀ item ∈ items, ∀ found, check item = some found →
      related item found) :
    List.Forall₂ related (items.filter fun item => (check item).isSome)
      (items.filterMap check) := by
  induction items with
  | nil => exact .nil
  | cons item rest ih =>
      obtain ⟨relatesItem, relatesRest⟩ := List.forall_mem_cons.mp relates
      cases outcome : check item with
      | none =>
          rw [List.filter_cons_of_neg (by simp [outcome]), List.filterMap_cons_none outcome]
          exact ih relatesRest
      | some found =>
          rw [List.filter_cons_of_pos (by simp [outcome]), List.filterMap_cons_some outcome]
          exact .cons (relatesItem found outcome) (ih relatesRest)

end Validation

/-- A note that is checked has all the diagnostics that its passes find: each of their ranges
lies in the note and is not empty.  The first of them are those of the markers in whose values
something is wrong, one for each, at the value or at the empty brackets, and one behind another. -/
theorem validate_eq_passes (config : MarkerConfig) (today : Date) (text : List Char)
    (enabled : config.enabled = true) (small : text.length ≤ config.maxNoteLength) :
    let markers := scan config.tagScanLimit text
    let check := validateMarker noFaults config today
    let found := validateMarkers noFaults config today text markers
    let passes := found ++ findIncomplete config text ++ findSuggestions config text markers
    validate config today text = passes ∧
    (∀ diagnostic ∈ passes, 0 ≤ diagnostic.start ∧ diagnostic.start < diagnostic.stop ∧
      diagnostic.stop ≤ text.length) ∧
    List.Forall₂
      (fun marker diagnostic => check marker = some diagnostic ∧
        (diagnostic.start, diagnostic.stop) =
          ((marker.flaggedRange.1 : Int), (marker.flaggedRange.2 : Int)))
      (markers.filter fun marker => (check marker).isSome) found ∧
    found.Pairwise fun first second =>
      first.start < second.start ∧ first.stop ≤ second.start := by
  intro markers check found passes
  have sameMarkers : markers = tokenize text := scan_eq_tokenize _ _
  have fit : ∀ diagnostic ∈ passes, diagnostic.fits text.length = true := by
    intro diagnostic member
    simp only [passes, found, sameMarkers] at member
    exact (mem_passes_iff.mp member).fits
  refine ⟨?_, ?_, ?_, ?_⟩
  · rw [validate_of_checked enabled small, ← sameMarkers]
    exact List.filter_eq_self.mpr fit
  · intro diagnostic member
    simpa [Diagnostic.fits, and_assoc] using fit diagnostic member
  · simp only [found, sameMarkers]
    rw [validateMarkers_tokenize]
    exact forall₂_filterMap fun marker member diagnostic outcome =>
      ⟨outcome, range_eq_flaggedRange member outcome⟩
  · simp only [found, sameMarkers]
    exact pairwise_validateMarkers

/-- Empty brackets, an unknown priority, a word of urgency and an open bracket. -/
theorem validate_eq_passes_of_empty_brackets :
    let config := { MarkerConfig.standard with tagCheckboxes := false }
    let note := "[] #bogus urgent [a".toList
    let found := validateMarkers noFaults config newYear note (scan config.tagScanLimit note)
    (config.enabled = true ∧ note.length ≤ config.maxNoteLength) ∧
    (validate config newYear note).map (fun diagnostic => (diagnostic.start, diagnostic.stop)) =
      [(0, 2), (4, 9), (17, 19), (10, 16)] ∧
    found.length = 2 ∧
    found.Pairwise fun first second =>
      first.start < second.start ∧ first.stop ≤ second.start := by
  intro config note found
  have enabled : config.enabled = true := by decide
  have small : note.length ≤ config.maxNoteLength := by decide
  obtain ⟨all, -, -, ordered⟩ := validate_eq_passes config newYear note enabled small
  refine ⟨⟨enabled, small⟩, ?_, ?_, ordered⟩
  · rw [all]
    decide +kernel
  · decide +kernel

end InlineMarkers
