import InlineMarkers.Proofs.Marker.ScanSpans
import InlineMarkers.Proofs.Settings.Bounds
import InlineMarkers.Proofs.Validation.MarkerCheck

/-!
# Fixes are local

A fix of a marker that is not a date changes that marker and nothing else: the
text has the same markers before it, and those behind it move by the difference
of the lengths, and so do their diagnostics.
-/

namespace InlineMarkers

open Text Tokenizer Validation Calendar

variable {text : List Char} {marker : Marker} {faults : Faults} {config : MarkerConfig}
  {today : Date} {diagnostic : Diagnostic} {fix : QuickFix}

namespace Tokenizer

/-- The value of a marker that is not a date is one of its kind. -/
theorem admits_of_mem (member : marker ∈ tokenize text) (notDate : marker.kind ≠ .date) :
    marker.kind.Admits marker.value := by
  obtain ⟨before, body, rest, more, lexeme, -, token, -, reported, rfl⟩ :=
    exists_token_of_mem member
  cases token with
  | tag unclosed => exact unclosed
  | color _ _ inside => exact inside
  | priority nonempty inside =>
      refine ⟨nonempty, inside, ?_⟩
      simpa [Lexeme.isReported, Lexeme.toMarker] using reported
  | named => exact absurd rfl notDate
  | numeric => exact absurd rfl notDate
  | assignee nonempty inside => exact ⟨nonempty, inside⟩
  | addressed nonempty inside _ => exact ⟨nonempty, inside⟩

/-- Empty brackets in a text. -/
theorem parts_of_empty_tag (member : marker ∈ tokenize text) (isTag : marker.kind = .tag)
    (empty : marker.value = []) :
    ∃ before rest, text = before ++ '[' :: ']' :: rest ∧
      marker = ⟨.tag, [], before.length + 1, before.length + 1, before.length,
        before.length + 2⟩ := by
  obtain ⟨before, body, rest, more, lexeme, parts, token, -, -, rfl⟩ := exists_token_of_mem member
  cases token with
  | @tag value unclosed =>
      obtain rfl : value = [] := empty
      exact ⟨before, rest, parts, rfl⟩
  | _ => exact absurd isTag (by simp [Lexeme.toMarker])

end Tokenizer

theorem Marker.StandsIn.value_length (stands : marker.StandsIn text) :
    marker.start + marker.value.length = marker.stop := by
  have inside := stands.inside
  have closes := stands.closes
  have ordered := stands.ordered
  rw [stands.value_eq, slice, List.length_take, List.length_drop]
  omega

namespace Validation

/-- A fix of a marker puts the value after the fix in the place of the marker's value. -/
theorem applyFix_eq (member : marker ∈ tokenize text)
    (found : validateMarker faults config today marker = some diagnostic)
    (offered : fix ∈ diagnostic.fixes) :
    diagnostic.applyFix fix text =
      text.take marker.start ++ fix.valueAfter marker.value ++ text.drop marker.stop := by
  cases diagnose_flags found with
  | value nonempty _ reports =>
      have size := (standsIn_of_mem member).value_length
      have keep : fix.valueAfter marker.value = fix.replacement :=
        if_neg (by simpa using nonempty)
      have stop : diagnostic.stop = marker.stop := by
        rw [reports.stop_eq, ← size, Int.natCast_add]
      rw [Diagnostic.applyFix, Edit.apply, reports.start_eq, stop, keep, Int.toNat_natCast,
        Int.toNat_natCast]
  | brackets isTag empty behind reports =>
      obtain ⟨before, rest, rfl, rfl⟩ := parts_of_empty_tag member isTag empty
      have start := reports.start_eq
      have stop := reports.stop_eq
      simp only [List.length_cons, List.length_nil] at start stop
      have startEq : diagnostic.start.toNat = before.length := by omega
      have stopEq : diagnostic.stop.toNat = before.length + 2 := by omega
      rw [Diagnostic.applyFix, Edit.apply, startEq, stopEq, reports.eq_of_mem offered,
        QuickFix.valueAfter, List.isEmpty_nil, if_pos rfl, List.take_left,
        List.take_length_add_append, List.drop_length_add_append, List.drop_length_add_append]
      simp

theorem applyFix_length (member : marker ∈ tokenize text)
    (found : validateMarker faults config today marker = some diagnostic)
    (offered : fix ∈ diagnostic.fixes) :
    ((diagnostic.applyFix fix text).length : Int) - text.length =
      (fix.valueAfter marker.value).length - marker.value.length := by
  have stands := standsIn_of_mem member
  have size := stands.value_length
  have inside := stands.inside
  have closes := stands.closes
  rw [applyFix_eq member found offered, List.length_append, List.length_append, List.length_take,
    List.length_drop]
  omega

/-- The diagnostic of a marker points at a piece of the marker that is not empty, and the
piece is not all that there is. -/
theorem validateMarker_range (member : marker ∈ tokenize text)
    (found : validateMarker faults config today marker = some diagnostic) :
    (marker.markerStart : Int) ≤ diagnostic.start ∧ diagnostic.start < diagnostic.stop ∧
      diagnostic.stop ≤ marker.markerStop ∧ 2 ≤ marker.markerStop := by
  have stands := standsIn_of_mem member
  have opens := stands.opens
  have closes := stands.closes
  cases diagnose_flags found with
  | value nonempty _ reports =>
      have size := stands.value_length
      have filled := List.length_pos_iff.mpr nonempty
      rw [reports.start_eq, reports.stop_eq]
      omega
  | brackets isTag empty _ reports =>
      obtain ⟨before, rest, -, rfl⟩ := parts_of_empty_tag member isTag empty
      have start := reports.start_eq
      have stop := reports.stop_eq
      simp only [List.length_cons, List.length_nil] at start stop ⊢
      omega

theorem validateMarkers_of_long (long : 1 < text.length) (markers : List Marker) :
    validateMarkers faults config today text markers =
      markers.filterMap (validateMarker faults config today) :=
  if_neg (by omega)

/-- Markers that move, and do not come to stand in front of the text, have the same
diagnostics as before, which move with them. -/
theorem filterMap_move {markers : List Marker} {distance : Int}
    (inside : ∀ marker ∈ markers, 1 ≤ marker.start ∧ 1 ≤ marker.start + distance) :
    (markers.map (Marker.move distance)).filterMap (validateMarker faults config today) =
      (markers.filterMap (validateMarker faults config today)).map (Diagnostic.move distance) := by
  rw [List.filterMap_map, List.map_filterMap]
  refine List.filterMap_congr fun marker member => ?_
  obtain ⟨near, far⟩ := inside marker member
  apply diagnose_steady
  · exact near
  · simp only [Marker.move]
    omega
  · simp only [Marker.move]
    omega

/-- Markers behind one that changes its value do not come to stand in front of the text. -/
theorem start_of_later {earlier later : List Marker} {value : List Char}
    (parts : tokenize text = earlier ++ marker :: later) :
    ∀ other ∈ later, 1 ≤ other.start ∧
      1 ≤ other.start + ((value.length : Int) - marker.value.length) := by
  intro other isLater
  have member : marker ∈ tokenize text := by simp [parts]
  have otherMember : other ∈ tokenize text := by simp [parts, isLater]
  have size := (standsIn_of_mem member).value_length
  have closes := (standsIn_of_mem member).closes
  have opens := (standsIn_of_mem otherMember).opens
  have ordered : (tokenize text).Pairwise Marker.Precedes := pairwise_walkFrom 0 text
  rw [parts, List.pairwise_append, List.pairwise_cons] at ordered
  have precedes := ordered.2.1.1 other isLater
  simp only [Marker.Precedes] at precedes
  omega

/-- The first day of 2024. -/
def newYear : Date :=
  ⟨2024, 1, 1, by decide, by decide, by decide, by decide, by decide, by decide⟩

end Validation

/-- A fix of a marker that is not a date changes the value of that marker only.  The markers
before it stay, the markers behind it move by the difference of the lengths, all their
diagnostics are the same up to that, and the marker no longer has the diagnostic. -/
theorem applyFix_local (settings : Value) (today : Date) (text : List Char) (marker : Marker)
    (diagnostic : Diagnostic) (fix : QuickFix)
    (member : marker ∈ scan (MarkerConfig.ofValue settings).tagScanLimit text)
    (notDate : marker.kind ≠ .date)
    (found : validateMarker noFaults (.ofValue settings) today marker = some diagnostic)
    (offered : fix ∈ diagnostic.fixes) :
    let config := MarkerConfig.ofValue settings
    let check := validateMarker noFaults config today
    let edited := diagnostic.applyFix fix text
    let changed := marker.withValue (fix.valueAfter marker.value)
    let distance : Int := edited.length - text.length
    diagnostic.fits text.length = true ∧
    ∃ earlier later,
      scan config.tagScanLimit text = earlier ++ marker :: later ∧
      scan config.tagScanLimit edited = earlier ++ changed :: later.map (Marker.move distance) ∧
      validateMarkers noFaults config today text (scan config.tagScanLimit text) =
        earlier.filterMap check ++ diagnostic :: later.filterMap check ∧
      validateMarkers noFaults config today edited (scan config.tagScanLimit edited) =
        earlier.filterMap check ++
          ((check changed).toList ++ (later.filterMap check).map (Diagnostic.move distance)) ∧
      ∀ again ∈ check changed, again.code ≠ diagnostic.code := by
  intro config check edited changed distance
  rw [scan_eq_tokenize] at member
  have stands := standsIn_of_mem member
  have range := validateMarker_range member found
  have settles := diagnose_settles (MarkerConfig.maxTagLength_ofValue settings)
    (MarkerConfig.maxAssigneeLength_ofValue settings) (admits_of_mem member notDate) found offered
  have distanceEq : distance = (fix.valueAfter marker.value).length - marker.value.length :=
    applyFix_length member found offered
  have editedEq : edited =
      text.take marker.start ++ fix.valueAfter marker.value ++ text.drop marker.stop :=
    applyFix_eq member found offered
  have opens := stands.opens
  have inside := stands.inside
  have long : 1 < text.length := by omega
  have editedLong : 1 < edited.length := by
    have filled := List.length_pos_iff.mpr settles.nonempty
    have closes := stands.closes
    have ordered := stands.ordered
    rw [editedEq, List.length_append, List.length_append, List.length_take]
    omega
  refine ⟨?_, ?_⟩
  · simp only [Diagnostic.fits, Bool.and_eq_true, decide_eq_true_eq]
    omega
  obtain ⟨earlier, later, parts, editedParts⟩ := tokenize_withValue member settles.admits
  rw [← editedEq, ← distanceEq] at editedParts
  refine ⟨earlier, later, ?_, ?_, ?_, ?_, ?_⟩
  · rw [scan_eq_tokenize, parts]
  · rw [scan_eq_tokenize, editedParts]
  · rw [validateMarkers_of_long long, scan_eq_tokenize, parts, List.filterMap_append,
      List.filterMap_cons_some found]
  · rw [validateMarkers_of_long editedLong, scan_eq_tokenize, editedParts, List.filterMap_append,
      List.filterMap_cons, filterMap_move (distanceEq ▸ start_of_later parts)]
    congr 1
    change _ = (validateMarker noFaults config today changed).toList ++ _
    split <;> rename_i outcome <;> rw [outcome] <;> rfl
  · intro again isAgain
    exact settles.cleared _ again isAgain

/-- A tag that loses an angle bracket moves the priority behind it by one. -/
theorem applyFix_local_angle_bracket :
    ∃ earlier later,
      scan MarkerConfig.standard.tagScanLimit "[a<b] #low".toList =
        earlier ++ ⟨.tag, "a<b".toList, 1, 4, 0, 5⟩ :: later ∧
      scan MarkerConfig.standard.tagScanLimit "[ab] #low".toList =
        earlier ++ ⟨.tag, "ab".toList, 1, 3, 0, 4⟩ :: later.map (Marker.move (-1)) := by
  have member : (⟨.tag, "a<b".toList, 1, 4, 0, 5⟩ : Marker) ∈
      scan MarkerConfig.standard.tagScanLimit "[a<b] #low".toList := by decide
  obtain ⟨diagnostic, outcome, offers⟩ : ∃ diagnostic,
      checkTag .standard "a<b".toList 1 = some diagnostic ∧ (!diagnostic.fixes.isEmpty) = true :=
    (Option.any_eq_true _ _).mp (by decide)
  obtain ⟨fix, offered⟩ : ∃ fix, fix ∈ diagnostic.fixes :=
    List.exists_mem_of_ne_nil _ (by simpa using offers)
  have found : validateMarker noFaults .standard newYear ⟨.tag, "a<b".toList, 1, 4, 0, 5⟩ =
      some diagnostic := diagnose_of_checkValue (congrArg Except.ok outcome)
  have reports : diagnostic.Reports .tagInvalidChars 1 "a<b".toList ["ab".toList] := by
    cases checkTag_finding outcome with
    | brackets empty => exact absurd empty (by decide)
    | blank _ blank => exact absurd blank (by decide)
    | forbidden _ _ reports => exact reports
    | long _ long => exact absurd long (by decide)
  have edited : diagnostic.applyFix fix "[a<b] #low".toList = "[ab] #low".toList := by
    rw [Diagnostic.applyFix, reports.start_eq, reports.stop_eq, reports.eq_of_mem offered]
    decide
  obtain ⟨-, earlier, later, parts, editedParts, -⟩ :=
    applyFix_local (.object []) newYear "[a<b] #low".toList _ diagnostic fix member (by decide)
      found offered
  rw [edited] at editedParts
  refine ⟨earlier, later, parts, ?_⟩
  rw [QuickFix.valueAfter, reports.eq_of_mem offered] at editedParts
  exact editedParts

end InlineMarkers
