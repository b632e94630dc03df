import InlineMarkers.Proofs.Validation.DateLanguage
import InlineMarkers.Proofs.Validation.RoundTrip

/-!
# Fixes that change something

Every diagnostic offers fixes, each with a text of its own, and suggests the first
of them.  None of these texts is what stands there already: a fix that changes
nothing would leave the diagnostic, and the texts that are offered for a date have
another form than the date, or another number in it.
-/

namespace InlineMarkers

open Text Tokenizer Calendar

namespace Diagnostic

variable {diagnostic : Diagnostic} {fix : QuickFix} {text : List Char}

/-- The suggestion and the first fix, of which one or the other is asked for first, are the
same. -/
theorem Coherent.replacement?_eq (coherent : diagnostic.Coherent) :
    (DiagnosticEntry.diagnostic diagnostic).fields.replacement? =
      .ok diagnostic.primaryReplacement := by
  obtain ⟨fix, isFirst, suggested⟩ := coherent.leads
  obtain ⟨rest, fixes⟩ := List.head?_eq_some_iff.mp isFirst
  have field : diagnostic.fields.field "suggested_replacement" =
      .text (String.ofList fix.replacement) := by
    simp [Value.field, Diagnostic.fields, Value.member?, Members.get?, suggested, Value.ofText?]
  rw [DiagnosticEntry.fields, Value.replacement?, field, primaryReplacement, fixes]
  simp only [Value.display_text, String.toList_ofList]
  rfl

theorem applyFix_eq_self (ordered : diagnostic.start.toNat ≤ diagnostic.stop.toNat)
    (same : fix.replacement = slice text diagnostic.start.toNat diagnostic.stop.toNat) :
    diagnostic.applyFix fix text = text := by
  rw [applyFix, Edit.apply, same, take_append_slice text ordered, List.take_append_drop]

end Diagnostic

namespace Validation

variable {config : MarkerConfig} {today : Date} {text value : List Char} {start : Nat}
  {year month day : Nat} {diagnostic : Diagnostic} {fix : QuickFix} {marker : Marker}

theorem NoteFinding.coherent (finding : NoteFinding config today text diagnostic) :
    diagnostic.Coherent := by
  cases finding with
  | marker marker _ _ found =>
      cases diagnose_flags found with
      | value _ _ reports => exact reports.coherent
      | brackets _ _ _ reports => exact reports.coherent
  | incomplete member =>
      obtain ⟨_, _, _, _, reports⟩ := exists_rule_of_mem_findIncomplete member
      exact reports.coherent
  | suggestion member =>
      cases findSuggestions_finding member with
      | tag _ _ reports => exact reports.coherent
      | date _ _ reports => exact reports.coherent

/-! ## Dates -/

theorem isoText_ne_of_form (daySmall : day < 100)
    (known : DateForm.ofText value ≠ .unknown)
    (differs : DateForm.ofText value ≠ .iso year month day) :
    isoText year month day ≠ value := by
  rintro rfl
  exact (DateForm.ofText_isoText year month daySmall).elim differs known

theorem isoText_ne_of_parts
    (named : (DateForm.ofText value).parts? = some (year, month, day))
    (differs : DateForm.ofText value ≠ .iso year month day) :
    isoText year month day ≠ value := by
  refine isoText_ne_of_form (DateForm.hasShortDay_ofText value _ _ _ named) ?_ differs
  intro unknown
  simp [unknown, DateForm.parts?] at named

/-- The text of a date in which a number is another one. -/
theorem isoText_ne_of_iso {otherYear otherMonth otherDay : Int}
    (form : DateForm.ofText value = .iso year month day)
    (inside : 0 ≤ otherYear ∧ 0 ≤ otherMonth ∧ 0 ≤ otherDay ∧ otherDay < 100)
    (differs : ¬(otherYear = year ∧ otherMonth = month ∧ otherDay = day)) :
    isoText otherYear otherMonth otherDay ≠ value := by
  obtain ⟨yearPos, monthPos, dayPos, daySmall⟩ := inside
  lift otherYear to Nat using yearPos
  lift otherMonth to Nat using monthPos
  lift otherDay to Nat using dayPos
  apply isoText_ne_of_form (by omega)
  · simp [form]
  · rw [form, Ne, DateForm.iso.injEq]
    omega

/-- The fixes for a day that its month does not have put the last day of the month, or the same
day of the next month. -/
theorem mem_calendarFixes {year month day : Int} {replacement : List Char}
    (offered : replacement ∈ (calendarFixes year month day).map (·.replacement)) :
    replacement = isoText year month (daysInMonth month year) ∨
      replacement = isoText (followingMonth month year).2 (followingMonth month year).1 day := by
  simp only [calendarFixes] at offered
  split at offered
  · split at offered <;> exact .inl (List.mem_singleton.mp offered)
  · rcases List.mem_cons.mp offered with clamped | next
    · exact .inl clamped
    · split at next
      · exact .inr (List.mem_singleton.mp next)
      · simp at next

theorem IsoFinding.replacement_ne (daySmall : day < 100)
    (allowed : config.firstYear ≤ today.year ∧ today.year ≤ config.lastYear)
    (form : DateForm.ofText value = .iso year month day)
    (finding : IsoFinding config today value start year month day diagnostic)
    (offered : fix ∈ diagnostic.fixes) : fix.replacement ≠ value := by
  -- each fix changes the number that is at fault, or the month in its place
  cases finding with
  | year outside reports =>
      have yearPos := today.year_pos
      rw [reports.eq_of_mem offered]
      exact isoText_ne_of_iso form (by omega) (by omega)
  | month outside reports =>
      rw [reports.eq_of_mem offered]
      exact isoText_ne_of_iso form (by omega) (by omega)
  | day monthInside outside reports =>
      have last := twentyEight_le_daysInMonth year monthInside.1 monthInside.2
      have longest := daysInMonth_le_thirtyOne month year
      rw [reports.eq_of_mem offered]
      exact isoText_ne_of_iso form (by omega) (by omega)
  | calendar monthInside missing reports =>
      have last := twentyEight_le_daysInMonth year monthInside.1 monthInside.2
      have longest := daysInMonth_le_thirtyOne month year
      rcases mem_calendarFixes (reports.offers fix offered) with clamped | next
      · rw [clamped]
        exact isoText_ne_of_iso form (by omega) (by omega)
      · rw [next, followingMonth]
        split
        · exact isoText_ne_of_iso form (by omega) (by omega)
        · exact isoText_ne_of_iso form (by omega) (by omega)

/-- No fix of a date puts the date as it is. -/
theorem replacement_ne_of_checkDate
    (allowed : config.firstYear ≤ today.year ∧ today.year ≤ config.lastYear)
    (found : checkDate config today value start = .ok (some diagnostic))
    (offered : fix ∈ diagnostic.fixes) : fix.replacement ≠ value := by
  cases checkDate_finding found with
  | unknown tomorrow form _ reports =>
      have dated (date : Date) : DateForm.ofText date.text ≠ .unknown := by
        obtain ⟨year, month, day, isIso⟩ := date.ofText_text
        simp [isIso]
      rintro rfl
      have texts := reports.offers fix offered
      simp only [List.mem_cons, List.not_mem_nil, or_false] at texts
      rcases texts with word | word | text | text
      · rw [word] at form
        exact absurd form (by decide)
      · rw [word] at form
        exact absurd form (by decide)
      · exact dated today (text ▸ form)
      · exact dated tomorrow (text ▸ form)
  | slashed year month day form reports =>
      rw [reports.eq_of_mem offered]
      exact isoText_ne_of_parts (congrArg DateForm.parts? form) (by simp [form])
  | monthFirst year month day form reports =>
      rw [reports.eq_of_mem offered]
      exact isoText_ne_of_parts (congrArg DateForm.parts? form) (by simp [form])
  | monthFirstHyphens year month day form reports =>
      rw [reports.eq_of_mem offered]
      exact isoText_ne_of_parts (congrArg DateForm.parts? form) (by simp [form])
  | iso year month day form finding =>
      have daySmall := DateForm.hasShortDay_ofText value _ _ _ (congrArg DateForm.parts? form)
      exact finding.replacement_ne daySmall allowed form offered

/-! ## Notes -/

/-- What stands where the diagnostic of a date points. -/
theorem slice_eq_value (member : marker ∈ tokenize text) (isDate : marker.kind = .date)
    (found : validateMarker noFaults config today marker = some diagnostic) :
    slice text diagnostic.start.toNat diagnostic.stop.toNat = marker.value := by
  have stands := standsIn_of_mem member
  cases diagnose_flags found with
  | value _ _ reports =>
      rw [reports.start_eq, reports.stop_eq, ← Int.natCast_add, stands.value_length,
        Int.toNat_natCast, Int.toNat_natCast, ← stands.value_eq]
  | brackets isTag => simp [isDate] at isTag

/-- No fix of a diagnostic puts what stands there already. -/
theorem replacement_ne_slice {settings : Value}
    (allowed : (MarkerConfig.ofValue settings).firstYear ≤ today.year ∧
      today.year ≤ (MarkerConfig.ofValue settings).lastYear)
    (reported : diagnostic ∈ validate (.ofValue settings) today text)
    (offered : fix ∈ diagnostic.fixes) :
    fix.replacement ≠ slice text diagnostic.start.toNat diagnostic.stop.toNat := by
  intro same
  obtain ⟨-, fits, finding⟩ := mem_validate_iff.mp reported
  rw [Diagnostic.fits_iff] at fits
  have unchanged := Diagnostic.applyFix_eq_self (by omega) same
  cases finding with
  | marker marker member _ found =>
      by_cases isDate : marker.kind = .date
      · rw [slice_eq_value member isDate found] at same
        have checked := checkValue_of_diagnose found
        rw [isDate] at checked
        exact replacement_ne_of_checkDate allowed checked offered same
      · -- the marker that is settled by the fix is the one that is reported
        obtain ⟨changed, changedMember, covers, cleared⟩ :=
          exists_settled_marker (MarkerConfig.maxTagLength_ofValue settings)
            (MarkerConfig.maxAssigneeLength_ofValue settings) member isDate found offered
        rw [unchanged] at changedMember
        obtain rfl := eq_of_covers changedMember member covers (covers_start member found)
        exact cleared diagnostic found rfl
  | incomplete member =>
      exact findIncomplete_cleared member (by omega) offered (by rwa [unchanged]) rfl rfl
  | suggestion member =>
      exact findSuggestions_cleared member (by omega) offered (by rwa [unchanged]) rfl rfl

/-- Every diagnostic has fixes, which put different texts.  The first of them is the suggestion,
so it does not matter which of the two is asked for first, and none of them puts what stands there
already. -/
theorem fixes_coherent (settings : Value) (today : Date) (text : List Char)
    (diagnostic : Diagnostic)
    (allowed : (MarkerConfig.ofValue settings).firstYear ≤ today.year ∧
      today.year ≤ (MarkerConfig.ofValue settings).lastYear)
    (reported : diagnostic ∈ validate (.ofValue settings) today text) :
    diagnostic.fixes ≠ [] ∧
    (diagnostic.fixes.map (·.replacement)).Nodup ∧
    diagnostic.suggestion = diagnostic.fixes.head?.map (·.replacement) ∧
    (DiagnosticEntry.diagnostic diagnostic).fields.replacement? =
      .ok diagnostic.primaryReplacement ∧
    ∀ fix ∈ diagnostic.fixes,
      fix.replacement ≠ slice text diagnostic.start.toNat diagnostic.stop.toNat := by
  obtain ⟨-, -, finding⟩ := mem_validate_iff.mp reported
  have coherent := finding.coherent
  obtain ⟨fix, isFirst, suggested⟩ := coherent.leads
  refine ⟨?_, coherent.distinct, ?_, coherent.replacement?_eq, fun fix offered => ?_⟩
  · exact List.ne_nil_of_mem (List.mem_of_mem_head? isFirst)
  · rw [suggested, Option.mem_def.mp isFirst, Option.map_some]
  · exact replacement_ne_slice allowed reported offered

/-- The last day of April and the same day of May are offered for the thirty-first of April. -/
theorem fixes_coherent_of_missing_day :
    MarkerConfig.standard.firstYear ≤ newYear.year ∧
    newYear.year ≤ MarkerConfig.standard.lastYear ∧
    ∃ diagnostic ∈ validate .standard newYear "@2024-04-31".toList,
      diagnostic.fixes.map (·.replacement) = ["2024-04-30".toList, "2024-05-31".toList] ∧
      diagnostic.suggestion = some "2024-04-30".toList ∧
      ∀ fix ∈ diagnostic.fixes, fix.replacement ≠ "2024-04-31".toList := by
  have allowed : MarkerConfig.standard.firstYear ≤ newYear.year ∧
      newYear.year ≤ MarkerConfig.standard.lastYear := by decide
  have member : (⟨.date, "2024-04-31".toList, 1, 11, 0, 11⟩ : Marker) ∈
      tokenize "@2024-04-31".toList := by
    rw [← scan_eq_tokenize 0]
    decide
  have outcome : checkValue .standard newYear .date "2024-04-31".toList 1 =
      .ok (some (calendarInvalid "2024-04-31".toList 1 2024 4 31)) := by decide +kernel
  have reported := mem_validate_of_marker (by decide) (by decide) member
    (diagnose_of_checkValue outcome)
  have texts : (calendarInvalid "2024-04-31".toList 1 2024 4 31).fixes.map (·.replacement) =
      ["2024-04-30".toList, "2024-05-31".toList] := by decide
  obtain ⟨-, -, -, -, changes⟩ := fixes_coherent (.object []) newYear _ _ allowed reported
  exact ⟨allowed.1, allowed.2, _, reported, texts, by decide, changes⟩

end Validation

end InlineMarkers
