import InlineMarkers.Proofs.Validation.DateFix
import InlineMarkers.Proofs.Validation.NotePasses

/-!
# Fixing and validating again

After the first fix of a diagnostic, the note has no diagnostic with the same code
at the same place, with one exception: a date without a form that is a number is
replaced by a word, and the characters that follow it go on with that word.
-/

namespace InlineMarkers.Validation

open Text Tokenizer Calendar

variable {text : List Char} {marker changed : Marker} {config : MarkerConfig} {today : Date}
  {diagnostic again : Diagnostic} {fix : QuickFix} {kind : MarkerKind}

/-- The diagnostic of a marker points at a character of the marker. -/
theorem covers_start (member : marker ∈ tokenize text)
    (found : validateMarker noFaults config today marker = some diagnostic) :
    marker.Covers diagnostic.start.toNat := by
  obtain ⟨starts, nonempty, stops, -⟩ := validateMarker_range member found
  rw [Marker.Covers]
  omega

/-- A diagnostic of a marker that points at a character of another one is a diagnostic of
that one. -/
theorem validateMarker_of_covers (member : changed ∈ tokenize text)
    (covers : changed.Covers diagnostic.start.toNat)
    (finding : NoteFinding config today text again) (part : again.part? = some (.marker kind))
    (sameStart : again.start = diagnostic.start) :
    validateMarker noFaults config today changed = some again := by
  obtain ⟨other, otherMember, -, found⟩ := finding.exists_marker part
  have otherCovers : other.Covers diagnostic.start.toNat := by
    rw [← sameStart]
    exact covers_start otherMember found
  rwa [eq_of_covers member otherMember covers otherCovers]

theorem covers_withValue (member : marker ∈ tokenize text)
    (found : validateMarker noFaults config today marker = some diagnostic) {value : List Char}
    (nonempty : value ≠ []) : (marker.withValue value).Covers diagnostic.start.toNat := by
  have opens := (standsIn_of_mem member).opens
  have filled := List.length_pos_iff.mpr nonempty
  cases diagnose_flags found with
  | value _ _ reports =>
      have start := reports.start_eq
      simp only [Marker.Covers, Marker.withValue]
      omega
  | brackets isTag empty _ reports =>
      obtain ⟨before, rest, -, rfl⟩ := parts_of_empty_tag member isTag empty
      have start := reports.start_eq
      simp only [Marker.Covers, Marker.withValue] at start ⊢
      omega

/-- After a fix of a marker that is not a date, there is a marker in its place on which the
same is not reported. -/
theorem exists_settled_marker (roomForTag : 4 ≤ config.maxTagLength)
    (roomForName : 4 ≤ config.maxAssigneeLength) (member : marker ∈ tokenize text)
    (notDate : marker.kind ≠ .date)
    (found : validateMarker noFaults config today marker = some diagnostic)
    (offered : fix ∈ diagnostic.fixes) :
    ∃ changed ∈ tokenize (diagnostic.applyFix fix text), changed.Covers diagnostic.start.toNat ∧
      ∀ again, validateMarker noFaults config today changed = some again →
        again.code ≠ diagnostic.code := by
  have settles := diagnose_settles roomForTag roomForName (admits_of_mem member notDate) found
    offered
  obtain ⟨earlier, later, -, parts⟩ := tokenize_withValue member settles.admits
  rw [← applyFix_eq member found offered] at parts
  refine ⟨marker.withValue (fix.valueAfter marker.value), by simp [parts],
    covers_withValue member found settles.nonempty, fun again isAgain => ?_⟩
  exact settles.cleared _ again isAgain

/-- The diagnostic of a marker of a note is one of the note's. -/
theorem mem_validate_of_marker (enabled : config.enabled = true)
    (small : text.length ≤ config.maxNoteLength) (member : marker ∈ tokenize text)
    (found : validateMarker noFaults config today marker = some diagnostic) :
    diagnostic ∈ validate config today text := by
  obtain ⟨starts, nonempty, stops, long⟩ := validateMarker_range member found
  have inside := (standsIn_of_mem member).inside
  refine mem_validate_iff.mpr ⟨⟨?_, enabled, small⟩, ?_, .marker marker member (by omega) found⟩
  · rintro rfl
    simp only [List.length_nil] at inside
    omega
  · rw [Diagnostic.fits_iff]
    omega

/-- A text without a form is reported. -/
theorem unknownDate_mem_validate {text value : List Char} {today tomorrow : Date} {stop : Nat}
    (next : today.tomorrow? = some tomorrow) (nonempty : value ≠ [])
    (form : DateForm.ofText value = .unknown) (small : text.length ≤ 20000)
    (member : (⟨.date, value, 1, stop, 0, stop⟩ : Marker) ∈ tokenize text) :
    unknownDate value 1 today tomorrow ∈ validate .standard today text := by
  have filled : value.isEmpty = false := by simpa using nonempty
  refine mem_validate_of_marker (by decide) small member (diagnose_of_checkValue ?_)
  simp only [checkValue, checkDate, filled, form, next]
  rfl

theorem part_eq_of_code_eq (sameCode : again.code = diagnostic.code) :
    again.part? = diagnostic.part? := by
  rw [Diagnostic.part?, sameCode, Diagnostic.part?]

/-- The first fix of a diagnostic that is not about a date without a form clears it. -/
theorem start_ne_of_known {settings : Value}
    (allowed : (MarkerConfig.ofValue settings).firstYear ≤ today.year ∧
      today.year ≤ (MarkerConfig.ofValue settings).lastYear)
    (reported : diagnostic ∈ validate (.ofValue settings) today text)
    (known : diagnostic.code ≠ some .dateFormatInvalid) (isFirst : fix ∈ diagnostic.fixes.head?)
    (isAgain : again ∈ validate (.ofValue settings) today (diagnostic.applyFix fix text))
    (sameCode : again.code = diagnostic.code) : again.start ≠ diagnostic.start := by
  intro sameStart
  obtain ⟨-, fits, finding⟩ := mem_validate_iff.mp reported
  have findingAgain := (mem_validate_iff.mp isAgain).2.2
  have samePart := part_eq_of_code_eq sameCode
  have offered := List.mem_of_mem_head? isFirst
  have inside : diagnostic.start ≤ text.length := by
    rw [Diagnostic.fits_iff] at fits
    omega
  cases finding with
  | marker marker member _ found =>
      obtain ⟨changed, changedMember, covers, cleared⟩ : ∃ changed ∈
          tokenize (diagnostic.applyFix fix text), changed.Covers diagnostic.start.toNat ∧
            ∀ again, validateMarker noFaults (.ofValue settings) today changed = some again →
              again.code ≠ diagnostic.code := by
        by_cases isDate : marker.kind = .date
        · exact exists_cleared_date allowed member isDate found known isFirst
        · exact exists_settled_marker (MarkerConfig.maxTagLength_ofValue settings)
            (MarkerConfig.maxAssigneeLength_ofValue settings) member isDate found offered
      have foundAgain := validateMarker_of_covers changedMember covers findingAgain
        (samePart.trans (part_of_marker found)) sameStart
      exact cleared again foundAgain sameCode
  | incomplete member =>
      have memberAgain := findingAgain.mem_findIncomplete
        (samePart.trans (part_of_incomplete member))
      exact findIncomplete_cleared member inside offered memberAgain sameCode sameStart
  | suggestion member =>
      have memberAgain := findingAgain.mem_findSuggestions
        (samePart.trans (part_of_suggestion member))
      exact findSuggestions_cleared member inside offered memberAgain sameCode sameStart

/-- The first fix of a diagnostic clears it, unless the diagnostic is about a date without a
form, the date is a number that a name character follows, and the note is still short enough
to be checked after the fix. -/
theorem firstFix_recurs_iff (settings : Value) (today : Date) (text : List Char)
    (diagnostic : Diagnostic) (fix : QuickFix)
    (allowed : (MarkerConfig.ofValue settings).firstYear ≤ today.year ∧
      today.year ≤ (MarkerConfig.ofValue settings).lastYear)
    (reported : diagnostic ∈ validate (.ofValue settings) today text)
    (isFirst : fix ∈ diagnostic.fixes.head?) :
    (∃ again ∈ validate (.ofValue settings) today (diagnostic.applyFix fix text),
      again.code = diagnostic.code ∧ again.start = diagnostic.start) ↔
    diagnostic.code = some .dateFormatInvalid ∧ RunsOn text diagnostic ∧
      (diagnostic.applyFix fix text).length ≤ (MarkerConfig.ofValue settings).maxNoteLength := by
  by_cases unknown : diagnostic.code = some .dateFormatInvalid
  · obtain ⟨⟨-, enabled, -⟩, -, finding⟩ := mem_validate_iff.mp reported
    have part : diagnostic.part? = some (.marker .date) := by
      rw [Diagnostic.part?, unknown]
      rfl
    obtain ⟨marker, member, isDate, found⟩ := finding.exists_marker part
    obtain ⟨changed, changedMember, covers, recurs⟩ :=
      exists_today member isDate found unknown isFirst
    constructor
    · rintro ⟨again, isAgain, sameCode, sameStart⟩
      obtain ⟨⟨-, -, small⟩, -, findingAgain⟩ := mem_validate_iff.mp isAgain
      have foundAgain := validateMarker_of_covers changedMember covers findingAgain
        ((part_eq_of_code_eq sameCode).trans part) sameStart
      exact ⟨unknown, recurs.mp ⟨again, foundAgain, sameCode, sameStart⟩, small⟩
    · rintro ⟨-, runsOn, small⟩
      obtain ⟨again, foundAgain, sameCode, sameStart⟩ := recurs.mpr runsOn
      exact ⟨again, mem_validate_of_marker enabled small changedMember foundAgain, sameCode,
        sameStart⟩
  · refine iff_of_false ?_ fun recurs => unknown recurs.1
    rintro ⟨again, isAgain, sameCode, sameStart⟩
    exact start_ne_of_known allowed reported unknown isFirst isAgain sameCode sameStart

/-- A slashed date is cleared by its first fix. -/
theorem firstFix_clears_slashes :
    ∃ diagnostic ∈ validate .standard newYear "@2024/1/5".toList,
      ∃ fix ∈ diagnostic.fixes.head?,
        diagnostic.applyFix fix "@2024/1/5".toList = "@2024-01-05".toList ∧
        ¬∃ again ∈ validate .standard newYear (diagnostic.applyFix fix "@2024/1/5".toList),
          again.code = diagnostic.code ∧ again.start = diagnostic.start := by
  have member : (⟨.date, "2024/1/5".toList, 1, 9, 0, 9⟩ : Marker) ∈
      tokenize "@2024/1/5".toList := by
    rw [← scan_eq_tokenize 0]
    decide
  have form : DateForm.ofText "2024/1/5".toList = .slashed 2024 1 5 := by decide
  have outcome : checkValue .standard newYear .date "2024/1/5".toList 1 =
      .ok (some (dateFormat "2024/1/5".toList 1 2024 1 5
        "Invalid date format - use hyphens instead of slashes." .dateFormatSlash)) := by
    simp only [checkValue, checkDate, form]
    rfl
  have enabled : MarkerConfig.standard.enabled = true := by decide
  have reported := mem_validate_of_marker enabled (by decide) member
    (diagnose_of_checkValue outcome)
  refine ⟨_, reported, ⟨"Fix format", isoText 2024 1 5, _⟩, rfl, by decide, fun recurs => ?_⟩
  obtain ⟨code, -⟩ :=
    (firstFix_recurs_iff (.object []) newYear _ _ _ (by decide) reported rfl).mp recurs
  exact absurd code (by decide)

/-- The first fix of a number that letters follow does not clear it. -/
theorem firstFix_recurs_before_letters :
    MarkerConfig.standard.firstYear ≤ newYear.year ∧
    newYear.year ≤ MarkerConfig.standard.lastYear ∧
    ∃ diagnostic ∈ validate .standard newYear "@20240101abc".toList,
      ∃ fix ∈ diagnostic.fixes.head?,
        diagnostic.applyFix fix "@20240101abc".toList = "@todayabc".toList ∧
        ∃ again ∈ validate .standard newYear "@todayabc".toList,
          again.code = diagnostic.code ∧ again.start = diagnostic.start := by
  obtain ⟨tomorrow, next⟩ : ∃ tomorrow, newYear.tomorrow? = some tomorrow :=
    Option.isSome_iff_exists.mp (by decide)
  have member : (⟨.date, "20240101".toList, 1, 9, 0, 9⟩ : Marker) ∈
      tokenize "@20240101abc".toList := by
    rw [← scan_eq_tokenize 0]
    decide
  have memberAgain : (⟨.date, "todayabc".toList, 1, 9, 0, 9⟩ : Marker) ∈
      tokenize "@todayabc".toList := by
    rw [← scan_eq_tokenize 0]
    decide
  have reported := unknownDate_mem_validate next (by decide) (by decide) (by decide) member
  have reportedAgain :=
    unknownDate_mem_validate next (by decide) (by decide) (by decide) memberAgain
  have reports (value) : (unknownDate value 1 newYear tomorrow).Reports .dateFormatInvalid 1 value
      ["today".toList, "tomorrow".toList, newYear.text, tomorrow.text] :=
    Diagnostic.reports_ofValue ..
  obtain ⟨fix, isFirst⟩ :
      ∃ fix, fix ∈ (unknownDate "20240101".toList 1 newYear tomorrow).fixes.head? :=
    ⟨_, QuickFix.head?_distinct _⟩
  have edited : (unknownDate "20240101".toList 1 newYear tomorrow).applyFix fix
      "@20240101abc".toList = "@todayabc".toList := by
    rw [Diagnostic.applyFix, (reports _).start_eq, (reports _).stop_eq,
      (reports _).eq_of_first isFirst]
    decide
  refine ⟨by decide, by decide, unknownDate "20240101".toList 1 newYear tomorrow, reported, fix,
    isFirst, edited, unknownDate "todayabc".toList 1 newYear tomorrow, reportedAgain, ?_, ?_⟩
  · rw [(reports _).code_eq, (reports _).code_eq]
  · rw [(reports _).start_eq, (reports _).start_eq]

end InlineMarkers.Validation
