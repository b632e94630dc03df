import InlineMarkers.Editor.Tooltip
import InlineMarkers.Proofs.Editor.DrawnRanges

/-!
# Diagnostics of the library's own

An entry of any origin may hold what cannot be displayed, and then it cannot be
shown.  The fields of the library's own diagnostics are texts or null, so these
diagnostics are always underlined and always have a row in the tooltip.
-/

namespace InlineMarkers

variable {diagnostic : Value}

theorem liftM_of_ok {α : Type} {attempt : Except SpellingError α} {x : α}
    (succeeds : attempt = .ok x) : (liftM attempt : Except EntryError α) = .ok x := by
  rw [succeeds]
  rfl

/-- The decorations for diagnostics of the library's own. -/
theorem decorations_diagnostics (config : MarkerConfig) (text : List Char)
    (diagnostics : List Diagnostic) :
    decorations config text (diagnostics.map .diagnostic) =
      .ok (Diagnostic.decorations config text diagnostics) := by
  obtain ⟨found, made⟩ : ∃ found, decorations config text (diagnostics.map .diagnostic) =
      .ok found := by
    refine exists_decorations_iff.mpr fun entry member _ => isSpellable_severity ?_
    obtain ⟨diagnostic, -, rfl⟩ := List.mem_map.mp member
    exact nofun
  rw [Diagnostic.decorations, made]

namespace TooltipRow

/-- The fields that show in a button can be written as texts. -/
structure ButtonSpellable (fix : Value) : Prop where
  label : (fix.field "label").isSpellable = true
  replacement : (fix.field "replacement_text").isSpellable = true
  description : (fix.field "description").isSpellable = true

theorem exists_button?_of_spellable {fix : Value} (spellable : ButtonSpellable fix) :
    ∃ button, button? fix = .ok button := by
  obtain ⟨label, replacement, description⟩ := spellable
  unfold button?
  split
  · exact ⟨none, rfl⟩
  · have shown : (if (fix.field "label").isTrue then fix.field "label"
        else fix.field "replacement_text").isSpellable = true := by
      split <;> assumption
    obtain ⟨label, isLabel⟩ := Value.exists_display_iff.mpr shown
    obtain ⟨toolTip, isToolTip⟩ := Value.exists_displayIfTrue_iff.mpr description
    obtain ⟨text, isText⟩ := Value.exists_display_iff.mpr replacement
    refine ⟨some ⟨label, toolTip, text⟩, ?_⟩
    simp only [isLabel, isToolTip, isText]
    rfl

theorem exists_buttonsOf {fixes : List Value} (spellable : ∀ fix ∈ fixes, ButtonSpellable fix) :
    ∃ buttons, buttonsOf fixes = .ok buttons := by
  have each : ∀ fix ∈ fixes.take 3, ∃ button, button? fix = .ok button := fun fix member =>
    exists_button?_of_spellable (spellable fix (List.mem_of_mem_take member))
  obtain ⟨buttons, made⟩ := exists_mapM_iff.mpr each
  exact ⟨_, by rw [buttonsOf, made]; rfl⟩

theorem exists_detailOf (hint : (diagnostic.field "hint").isSpellable = true)
    (suggestion : (diagnostic.field "suggested_replacement").isSpellable = true) :
    ∃ detail, detailOf diagnostic = .ok detail := by
  obtain ⟨shownHint, isHint⟩ := Value.exists_display_iff.mpr hint
  obtain ⟨shownSuggestion, isSuggestion⟩ := Value.exists_display_iff.mpr suggestion
  unfold detailOf
  simp only [isHint, isSuggestion]
  split
  · exact ⟨_, rfl⟩
  · split <;> exact ⟨_, rfl⟩

/-- Where the fields of an entry can be written as texts, the entry has a row. -/
theorem exists_ofEntry (config : MarkerConfig) {entry : DiagnosticEntry} {own : List Value}
    (fields : ∀ name ∈ ["severity", "message", "hint", "suggested_replacement"],
      (entry.fields.field name).isSpellable = true)
    (isOwn : (entry.fields.field "quick_fixes").items = .ok own)
    (spellable : ∀ fix ∈ own, ButtonSpellable fix) :
    ∃ row, ofEntry config entry = .ok row := by
  have suggestion := fields "suggested_replacement" (by simp)
  have offers : ∃ offered, offeredFixes entry.fields own = .ok offered ∧
      ∀ fix ∈ offered, ButtonSpellable fix := by
    obtain ⟨word, isWord⟩ := Value.exists_display_iff.mpr suggestion
    unfold offeredFixes
    simp only [isWord]
    split
    · refine ⟨_, rfl, List.forall_mem_singleton.mpr ⟨rfl, suggestion, rfl⟩⟩
    · exact ⟨own, rfl, spellable⟩
  obtain ⟨offered, isOffered, buttonsSpellable⟩ := offers
  obtain ⟨severity, isSeverity⟩ :=
    Value.exists_shownSeverity_iff.mpr (fields "severity" (by simp))
  obtain ⟨message, isMessage⟩ :=
    Value.exists_displayIfTrue_iff.mpr (fields "message" (by simp))
  obtain ⟨detail, isDetail⟩ := exists_detailOf (fields "hint" (by simp)) suggestion
  obtain ⟨buttons, areButtons⟩ := exists_buttonsOf buttonsSpellable
  simp only [ofEntry, bind_eq_ok_iff]
  exact ⟨_, severity, liftM_of_ok isSeverity, message, liftM_of_ok isMessage, own, isOwn,
    detail, liftM_of_ok isDetail, offered, liftM_of_ok isOffered,
    buttons, liftM_of_ok areButtons, rfl⟩

end TooltipRow

theorem Value.isSpellable_ofText? (text : Option (List Char)) :
    (Value.ofText? text).isSpellable = true := by
  cases text <;> rfl

/-- Every diagnostic of the library's own has a row. -/
theorem exists_row (config : MarkerConfig) (diagnostic : Diagnostic) :
    ∃ row, TooltipRow.ofEntry config (.diagnostic diagnostic) = .ok row := by
  refine TooltipRow.exists_ofEntry config (fun name listed => ?_) rfl ?_
  · simp only [List.mem_cons, List.not_mem_nil, or_false] at listed
    rcases listed with rfl | rfl | rfl | rfl
    · rfl
    · rfl
    · exact Value.isSpellable_ofText? _
    · exact Value.isSpellable_ofText? _
  · intro fix member
    obtain ⟨own, -, rfl⟩ := List.mem_map.mp member
    exact ⟨rfl, rfl, Value.isSpellable_ofText? _⟩

theorem mapM_ofEntry_diagnostics (config : MarkerConfig) (diagnostics : List Diagnostic) :
    (diagnostics.map .diagnostic).mapM (TooltipRow.ofEntry config) =
      .ok (diagnostics.filterMap (Tooltip.diagnosticRow config)) := by
  induction diagnostics with
  | nil => rfl
  | cons diagnostic rest ih =>
      obtain ⟨row, made⟩ := exists_row config diagnostic
      have isRow : Tooltip.diagnosticRow config diagnostic = some row := by
        rw [Tooltip.diagnosticRow, made]
      rw [List.map_cons, List.mapM_cons, made, ih, List.filterMap_cons_some isRow]
      rfl

/-- The tooltip shows diagnostics of the library's own as it shows any other entries. -/
theorem Tooltip.showEntries_diagnostics (tooltip : Tooltip) (diagnostics : List Diagnostic) :
    tooltip.showEntries (diagnostics.map .diagnostic) =
      .ok (tooltip.showDiagnostics diagnostics) := by
  rw [showEntries, setEntries, ← List.map_take, mapM_ofEntry_diagnostics, showDiagnostics,
    List.isEmpty_map]
  rfl

end InlineMarkers
