import InlineMarkers.Proofs.Validation.LocalFix
import InlineMarkers.Proofs.Validation.NotePasses
import InlineMarkers.Validation.AnyValue

/-!
# What a broken part costs

A part of a validation that fails takes its own diagnostics with it.  Those of
the other parts stay, in their order: a guard stands around every check of a
marker and around every pass.  Only a failure outside these guards, in the
search for the markers or between the passes, costs everything.
-/

namespace InlineMarkers.Validation

open Text Tokenizer Calendar

/-- The diagnostic comes from a part that is in order. -/
def Survives (faults : Faults) (diagnostic : Diagnostic) : Bool :=
  !diagnostic.part?.any faults

/-- What a part of a validation finds when no part is out of order. -/
def Produces (config : MarkerConfig) (today : Date) (text : List Char) (diagnostic : Diagnostic) :
    CheckPart → Prop
  | .marker kind => ∃ marker ∈ scan config.tagScanLimit text, marker.kind = kind ∧
      validateMarker noFaults config today marker = some diagnostic
  | .incomplete => diagnostic ∈ findIncomplete config text
  | .suggestions => diagnostic ∈ findSuggestions config text (scan config.tagScanLimit text)
  | .scan | .collect => False

variable {faults : Faults} {config : MarkerConfig} {today : Date} {text : List Char}
  {part : CheckPart} {diagnostic : Diagnostic}

theorem survives_of_part (isPart : diagnostic.part? = some part) :
    Survives faults diagnostic = !faults part := by
  rw [Survives, isPart, Option.any_some]

theorem Produces.part_eq (produces : Produces config today text diagnostic part) :
    diagnostic.part? = some part := by
  cases part with
  | marker kind =>
      obtain ⟨marker, -, rfl, found⟩ := produces
      exact part_of_marker found
  | incomplete => exact part_of_incomplete produces
  | suggestions => exact part_of_suggestion produces
  | scan => exact produces.elim
  | collect => exact produces.elim

theorem NoteFinding.exists_produces (finding : NoteFinding config today text diagnostic) :
    ∃ part, Produces config today text diagnostic part := by
  have sameMarkers := scan_eq_tokenize config.tagScanLimit text
  cases finding with
  | marker marker member _ found =>
      exact ⟨.marker marker.kind, marker, sameMarkers ▸ member, rfl, found⟩
  | incomplete member => exact ⟨.incomplete, member⟩
  | suggestion member =>
      refine ⟨.suggestions, ?_⟩
      rw [Produces, sameMarkers]
      exact member

/-- The code of a diagnostic of a note tells which part it comes from. -/
theorem part_eq_iff_produces (member : diagnostic ∈ validate config today text) :
    diagnostic.part? = some part ↔ Produces config today text diagnostic part := by
  obtain ⟨-, -, finding⟩ := mem_validate_iff.mp member
  obtain ⟨source, produces⟩ := finding.exists_produces
  constructor
  · intro isPart
    obtain rfl : source = part := Option.some.inj (produces.part_eq.symm.trans isPart)
    exact produces
  · exact Produces.part_eq

/-! ## The guards -/

theorem validateMarker_isolates (marker : Marker) :
    validateMarker faults config today marker =
      (validateMarker noFaults config today marker).filter (Survives faults) := by
  have guardedCheck : validateMarker faults config today marker =
      if faults (.marker marker.kind) then none
      else validateMarker noFaults config today marker := by
    cases broken : faults (.marker marker.kind) <;>
      simp [validateMarker, diagnose, Faults.run, noFaults, broken]
  rw [guardedCheck]
  cases found : validateMarker noFaults config today marker with
  | none => rw [Option.filter_none, ite_self]
  | some diagnostic =>
      rw [Option.filter_some, survives_of_part (part_of_marker found)]
      cases faults (.marker marker.kind) <;> rfl

theorem validateMarkers_isolates (markers : List Marker) :
    validateMarkers faults config today text markers =
      (validateMarkers noFaults config today text markers).filter (Survives faults) := by
  unfold validateMarkers
  split
  · rfl
  · rw [List.filter_filterMap]
    exact List.filterMap_congr fun marker _ => validateMarker_isolates marker

/-- A guarded pass whose diagnostics all come from one part. -/
theorem guarded_isolates {found : List Diagnostic}
    (isPart : ∀ diagnostic ∈ found, diagnostic.part? = some part) :
    guarded (faults.run part (.ok found)) = found.filter (Survives faults) := by
  cases broken : faults part with
  | true =>
      simp only [guarded, Faults.run, broken, if_true]
      rw [eq_comm, List.filter_eq_nil_iff]
      intro diagnostic member
      rw [survives_of_part (isPart diagnostic member), broken]
      decide
  | false =>
      simp only [guarded, Faults.run, broken]
      rw [if_neg (by decide), eq_comm, List.filter_eq_self]
      intro diagnostic member
      rw [survives_of_part (isPart diagnostic member), broken]
      rfl

/-- No failure of a check or of a pass gets past its guard. -/
theorem collect_eq_error_iff :
    (∃ cause, collect faults config today text = .error cause) ↔
      (faults .scan || faults .collect) = true := by
  cases collects : faults .collect <;> cases scans : faults .scan <;>
    simp [collect, Faults.run, collects, scans, pure, Except.pure, bind, Except.bind]

theorem guarded_collect_isolates (outer : (faults .scan || faults .collect) = false) :
    guarded (collect faults config today text) =
      (guarded (collect noFaults config today text)).filter (Survives faults) := by
  obtain ⟨scans, collects⟩ := Bool.or_eq_false_iff.mp outer
  let markers := scan config.tagScanLimit text
  have passes : guarded (collect faults config today text) =
      validateMarkers faults config today text markers ++
        guarded (faults.run .incomplete (.ok (findIncomplete config text))) ++
        guarded (faults.run .suggestions (.ok (findSuggestions config text markers))) := by
    simp only [collect, Faults.run, collects, scans]
    rfl
  have allPasses : guarded (collect noFaults config today text) =
      validateMarkers noFaults config today text markers ++
        findIncomplete config text ++ findSuggestions config text markers := rfl
  rw [passes, allPasses, List.filter_append, List.filter_append, validateMarkers_isolates,
    guarded_isolates fun _ member => part_of_incomplete member,
    guarded_isolates fun _ member => part_of_suggestion member]

theorem validateWith_isolates (outer : (faults .scan || faults .collect) = false) :
    validateWith faults config today text =
      (validate config today text).filter (Survives faults) := by
  unfold validate validateWith
  split
  · rfl
  · -- the filter that keeps the fitting ranges comes last in both runs
    rw [guarded_collect_isolates outer, List.filter_filter, List.filter_filter]
    exact List.filter_congr fun diagnostic _ => Bool.and_comm _ _

theorem validateWith_of_error {cause : CheckFailure}
    (failed : collect faults config today text = .error cause) :
    validateWith faults config today text = [] := by
  unfold validateWith
  rw [failed]
  exact ite_self _

/-- Whatever parts are out of order, and whatever is given as a note: the diagnostics are those
of a validation in order, less the ones that a broken part would have found.  There are none
when the markers cannot be found or the passes not be put together, and no other failure
gets so far. -/
theorem validateValue_isolates (faults : Faults) (config : MarkerConfig) (today : Date)
    (note : Value) :
    let whole := validateValue noFaults config today note
    (validateValue faults config today note =
      if faults .scan || faults .collect then []
      else whole.filter fun diagnostic => !diagnostic.part?.any faults) ∧
    (∀ diagnostic ∈ whole, ∀ part,
      diagnostic.part? = some part ↔ Produces config today note.asText diagnostic part) ∧
    ((∃ cause, collect faults config today note.asText = .error cause) ↔
      (faults .scan || faults .collect) = true) ∧
    ((∀ text, note ≠ .text text) → whole = []) := by
  intro whole
  refine ⟨?_, ?_, collect_eq_error_iff, ?_⟩
  · cases outer : faults .scan || faults .collect with
    | true =>
        obtain ⟨cause, failed⟩ := collect_eq_error_iff.mpr outer
        exact validateWith_of_error failed
    | false => exact validateWith_isolates outer
  · intro diagnostic member part
    exact part_eq_iff_produces member
  · intro noText
    have empty : note.asText = [] := by
      cases note with
      | text text => exact absurd rfl (noText text)
      | _ => rfl
    simp only [whole, validateValue, empty]
    rfl

/-- A note with something for every pass to find, of which two parts find nothing any more. -/
theorem validateValue_isolates_two_parts :
    let faults : Faults := fun part => part == .marker .priority || part == .incomplete
    let note := "urgent #bogus @2024/1/5 [a"
    let whole := validateValue noFaults .standard newYear (.text note)
    whole.map (·.part?) = [some (.marker .priority), some (.marker .date), some .incomplete,
      some .suggestions] ∧
    (validateValue faults .standard newYear (.text note)).map (·.part?) =
      [some (.marker .date), some .suggestions] ∧
    (∃ diagnostic ∈ whole,
      Produces .standard newYear note.toList diagnostic (.marker .priority)) ∧
    validateValue faults .standard newYear (.int 7) = [] := by
  intro faults note whole
  obtain ⟨kept, produced, -, -⟩ :=
    validateValue_isolates faults .standard newYear (.text note)
  obtain ⟨keptOfNumber, -, -, empty⟩ := validateValue_isolates faults .standard newYear (.int 7)
  have parts : whole.map (·.part?) =
      [some (.marker .priority), some (.marker .date), some .incomplete, some .suggestions] := by
    decide +kernel
  refine ⟨parts, ?_, ?_, ?_⟩
  · rw [kept]
    decide +kernel
  · obtain ⟨diagnostic, member, isPart⟩ : ∃ diagnostic ∈ whole,
        diagnostic.part? = some (.marker .priority) :=
      List.mem_map.mp (parts ▸ List.mem_cons_self)
    exact ⟨diagnostic, member, (produced diagnostic member _).mp isPart⟩
  · rw [keptOfNumber, empty (fun text same => nomatch same)]
    rfl

end InlineMarkers.Validation
