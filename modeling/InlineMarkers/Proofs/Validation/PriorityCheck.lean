import InlineMarkers.Proofs.Validation.Settled
import InlineMarkers.Validation.Priority

/-!
# What the check of priorities finds

Every text that is offered for a priority is one of the priority words.
-/

namespace InlineMarkers.Validation

open Text

variable {config : MarkerConfig} {value : List Char} {start : Nat} {diagnostic : Diagnostic}
  {fix : QuickFix}

theorem checkPriority_reports (found : checkPriority config value start = some diagnostic) :
    value ≠ [] ∧ isPriorityWord (lower value) = false ∧
      diagnostic.Reports .priorityInvalid start value
        ((closestPriority value :: commonPriorities.map Prod.fst).map String.toList) := by
  simp only [checkPriority] at found
  split at found
  · simp at found
  rename_i unknown
  rw [Bool.or_eq_true, not_or, Bool.not_eq_true, Bool.not_eq_true] at unknown
  split at found
  · simp at found
  · obtain rfl := Option.some.inj found
    exact ⟨by simpa using unknown.1, unknown.2, Diagnostic.reports_ofValue ..⟩

theorem checkPriority_steady (config : MarkerConfig) : Steady (checkPriority config) := by
  intro value near far distance _ _ apart
  simp only [checkPriority, apart]
  repeat' split
  all_goals simp [Diagnostic.move_ofValue]

/-! ## The fixes -/

theorem closestPriority_mem (value : List Char) : closestPriority value ∈ priorityWords := by
  have aliased : ∀ pair ∈ priorityAliases, pair.2 ∈ priorityWords := by decide
  have usual : usualPriority ∈ priorityWords := by decide
  simp only [closestPriority]
  split
  · rename_i found
    exact aliased _ (List.mem_of_find?_eq_some found)
  split
  · exact usual
  · rename_i first _ _
    cases sameLetter : priorityWords.find? (·.toList.head? == some first) with
    | none => exact usual
    | some word => exact List.mem_of_find?_eq_some sameLetter

/-- A priority word settles what the check of priorities reports. -/
theorem settles_of_mem_priorityWords {word : String} (isWord : word ∈ priorityWords) :
    Settles (checkPriority config) .priority (some .priorityInvalid) word.toList := by
  have words : ∀ word ∈ priorityWords, word.toList ≠ [] ∧
      word.toList.all Char.isAlpha = true ∧ Lexeme.isHexWord word.toList = false ∧
      isPriorityWord (lower word.toList) = true := by decide
  obtain ⟨nonempty, letters, noHexWord, known⟩ := words word isWord
  refine ⟨⟨nonempty, List.all_eq_true.mp letters, noHexWord⟩, nonempty, fun start again found => ?_⟩
  have unknown := (checkPriority_reports found).2.1
  rw [known] at unknown
  exact absurd unknown (by decide)

/-- Every fix of a priority settles it. -/
theorem checkPriority_settles (found : checkPriority config value start = some diagnostic)
    (offered : fix ∈ diagnostic.fixes) :
    Settles (checkPriority config) .priority diagnostic.code fix.replacement := by
  have reports := (checkPriority_reports found).2.2
  have common : ∀ word ∈ commonPriorities.map Prod.fst, word ∈ priorityWords := by decide
  obtain ⟨word, isOffered, replacementEq⟩ := List.mem_map.mp (reports.offers fix offered)
  rw [reports.code_eq, ← replacementEq]
  apply settles_of_mem_priorityWords
  rcases List.mem_cons.mp isOffered with rfl | isCommon
  · exact closestPriority_mem value
  · exact common word isCommon

end InlineMarkers.Validation
