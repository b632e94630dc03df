import InlineMarkers.Proofs.Marker.ScanRefinement
import InlineMarkers.Proofs.Validation.IncompleteRules
import InlineMarkers.Proofs.Validation.MarkerCheck
import InlineMarkers.Proofs.Validation.SuggestionPass

/-!
# The passes of a validation

A diagnostic of a note comes from one of its markers, from a rule for open
markers or from a suggestion, and its code tells which.
-/

namespace InlineMarkers.Validation

open Text Tokenizer Calendar

variable {config : MarkerConfig} {today : Date} {text : List Char} {diagnostic : Diagnostic}

/-- Where a diagnostic of a note comes from. -/
inductive NoteFinding (config : MarkerConfig) (today : Date) (text : List Char)
    (diagnostic : Diagnostic) : Prop where
  | marker (marker : Marker) (member : marker ∈ tokenize text) (long : 1 < text.length)
      (found : validateMarker noFaults config today marker = some diagnostic)
  | incomplete (member : diagnostic ∈ findIncomplete config text)
  | suggestion (member : diagnostic ∈ findSuggestions config text (tokenize text))

theorem mem_validateMarkers_iff {markers : List Marker} {faults : Faults} :
    diagnostic ∈ validateMarkers faults config today text markers ↔
      ∃ marker ∈ markers, 1 < text.length ∧
        validateMarker faults config today marker = some diagnostic := by
  simp only [validateMarkers]
  split
  · rename_i short
    simp only [List.not_mem_nil, false_iff, not_exists, not_and]
    omega
  · rename_i long
    simp only [List.mem_filterMap, Nat.lt_of_not_le long, true_and]

theorem mem_passes_iff :
    diagnostic ∈ validateMarkers noFaults config today text (tokenize text) ++
        findIncomplete config text ++ findSuggestions config text (tokenize text) ↔
      NoteFinding config today text diagnostic := by
  rw [List.mem_append, List.mem_append, mem_validateMarkers_iff]
  constructor
  · rintro ((⟨marker, member, long, found⟩ | incomplete) | suggestion)
    · exact .marker marker member long found
    · exact .incomplete incomplete
    · exact .suggestion suggestion
  · rintro (⟨marker, member, long, found⟩ | incomplete | suggestion)
    · exact .inl (.inl ⟨marker, member, long, found⟩)
    · exact .inl (.inr incomplete)
    · exact .inr suggestion

/-- A note that is checked has the diagnostics of its passes, as far as they fit it. -/
theorem validate_of_checked (enabled : config.enabled = true)
    (small : text.length ≤ config.maxNoteLength) :
    validate config today text =
      (validateMarkers noFaults config today text (tokenize text) ++ findIncomplete config text ++
        findSuggestions config text (tokenize text)).filter (·.fits text.length) := by
  rw [← scan_eq_tokenize config.tagScanLimit]
  unfold validate validateWith
  split
  · rename_i unchecked
    -- of the reasons not to check a note only its being empty is left, and then nothing is found
    obtain rfl : text = [] := by simpa [enabled, Nat.not_lt.mpr small] using unchecked
    rfl
  · rfl

/-- The diagnostics of a note are those of its passes, when the note is checked at all, as
far as they fit the note. -/
theorem mem_validate_iff :
    diagnostic ∈ validate config today text ↔
      (text ≠ [] ∧ config.enabled = true ∧ text.length ≤ config.maxNoteLength) ∧
        diagnostic.fits text.length = true ∧ NoteFinding config today text diagnostic := by
  by_cases checked : text ≠ [] ∧ config.enabled = true ∧ text.length ≤ config.maxNoteLength
  · rw [validate_of_checked checked.2.1 checked.2.2, List.mem_filter, mem_passes_iff,
      and_comm (a := NoteFinding ..)]
    exact (and_iff_right checked).symm
  · have nothing : validate config today text = [] := by
      refine if_pos ?_
      by_contra proceeds
      apply checked
      simpa [and_assoc] using proceeds
    rw [nothing]
    exact iff_of_false List.not_mem_nil fun found => checked found.1

/-! ## The parts that report -/

theorem part_of_marker {faults : Faults} {marker : Marker}
    (found : validateMarker faults config today marker = some diagnostic) :
    diagnostic.part? = some (.marker marker.kind) :=
  (diagnose_flags found).part_eq

theorem part_of_incomplete (member : diagnostic ∈ findIncomplete config text) :
    diagnostic.part? = some .incomplete := by
  have parts : ∀ rule ∈ IncompleteRule.all, rule.code.part? = some .incomplete := by decide
  obtain ⟨rule, isRule, found, -, reports⟩ := exists_rule_of_mem_findIncomplete member
  rw [Diagnostic.part?, reports.code_eq, Option.bind_some, parts rule isRule]

theorem part_of_suggestion {markers : List Marker}
    (member : diagnostic ∈ findSuggestions config text markers) :
    diagnostic.part? = some .suggestions := by
  cases findSuggestions_finding member with
  | tag _ _ reports => rw [Diagnostic.part?, reports.code_eq, Option.bind_some]; rfl
  | date _ _ reports => rw [Diagnostic.part?, reports.code_eq, Option.bind_some]; rfl

namespace NoteFinding

/-- A diagnostic of the check of a kind is about a marker of that kind. -/
theorem exists_marker {kind : MarkerKind} (finding : NoteFinding config today text diagnostic)
    (part : diagnostic.part? = some (.marker kind)) :
    ∃ marker ∈ tokenize text, marker.kind = kind ∧
      validateMarker noFaults config today marker = some diagnostic := by
  cases finding with
  | marker marker member _ found =>
      rw [part_of_marker found, Option.some.injEq, CheckPart.marker.injEq] at part
      exact ⟨marker, member, part, found⟩
  | incomplete member => simp [part_of_incomplete member] at part
  | suggestion member => simp [part_of_suggestion member] at part

theorem mem_findIncomplete (finding : NoteFinding config today text diagnostic)
    (part : diagnostic.part? = some .incomplete) : diagnostic ∈ findIncomplete config text := by
  cases finding with
  | marker _ _ _ found => simp [part_of_marker found] at part
  | incomplete member => exact member
  | suggestion member => simp [part_of_suggestion member] at part

theorem mem_findSuggestions (finding : NoteFinding config today text diagnostic)
    (part : diagnostic.part? = some .suggestions) :
    diagnostic ∈ findSuggestions config text (tokenize text) := by
  cases finding with
  | marker _ _ _ found => simp [part_of_marker found] at part
  | incomplete member => simp [part_of_incomplete member] at part
  | suggestion member => exact member

end NoteFinding

end InlineMarkers.Validation
