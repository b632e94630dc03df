import InlineMarkers.Proofs.Text.Ascii
import InlineMarkers.Proofs.Text.Trim
import InlineMarkers.Proofs.Validation.Settled
import InlineMarkers.Validation.Color

/-!
# What the check of colours finds

Every text that is offered for a colour is a hexadecimal colour.
-/

namespace InlineMarkers.Validation

open Text

variable {value : List Char} {start : Nat} {diagnostic : Diagnostic} {fix : QuickFix}

theorem checkColor_reports (found : checkColor value start = some diagnostic) :
    value ≠ [] ∧ isHexColor value = false ∧
      diagnostic.Reports .colorFormatInvalid start value
        (fallbackColor value :: paletteFixes.map (·.replacement)) := by
  simp only [checkColor] at found
  split at found
  · simp at found
  · rename_i unfit
    obtain rfl := Option.some.inj found
    rw [Bool.or_eq_true, not_or, Bool.not_eq_true, Bool.not_eq_true] at unfit
    exact ⟨by simpa using unfit.1, unfit.2, Diagnostic.reports_ofValue ..⟩

theorem checkColor_steady : Steady checkColor := by
  intro value near far distance _ _ apart
  simp only [checkColor, apart]
  split
  · rfl
  · rw [Option.map_some, Diagnostic.move_ofValue]

/-! ## The fixes -/

theorem sixDigits_length (digits : List Char) : (sixDigits digits).length = 6 := by
  simp only [sixDigits, List.length_take, List.length_append, List.length_replicate]
  omega

theorem isHexDigit_of_mem_sixDigits {c : Char} {digits : List Char}
    (hex : ∀ c ∈ digits, Lexeme.isHexDigit c = true) (member : c ∈ sixDigits digits) :
    Lexeme.isHexDigit c = true := by
  rcases List.mem_append.mp (List.mem_of_mem_take member) with typed | filled
  · exact hex c typed
  · obtain rfl := List.eq_of_mem_replicate filled
    decide

theorem isColor_fallbackColor (value : List Char) :
    MarkerConfig.isColor (fallbackColor value) = true := by
  have hex : ∀ c ∈ value.filter Lexeme.isHexDigit, Lexeme.isHexDigit c = true :=
    fun _ member => (List.mem_filter.mp member).2
  have digits : (sixDigits (value.filter Lexeme.isHexDigit)).all Lexeme.isHexDigit = true :=
    List.all_eq_true.mpr fun _ => isHexDigit_of_mem_sixDigits hex
  simp only [MarkerConfig.isColor, fallbackColor, Lexeme.isHexWord, sixDigits_length, digits]
  decide

theorem isAlphanum_of_isHexDigit {c : Char} (hex : Lexeme.isHexDigit c = true) :
    c.isAlphanum = true := by
  simp only [Lexeme.isHexDigit, Bool.or_eq_true, Bool.and_eq_true, decide_eq_true_eq,
    Char.le_def, UInt32.le_iff_toNat_le] at hex
  rw [isAlphanum_iff, isAlpha_iff_toNat]
  rcases hex with (digit | small) | capital
  · exact .inr digit
  · change 97 ≤ c.toNat ∧ c.toNat ≤ 102 at small
    omega
  · change 65 ≤ c.toNat ∧ c.toNat ≤ 70 at capital
    omega

theorem isColorCharacter_of_isAlphanum {c : Char} (inClass : c.isAlphanum = true) :
    Lexeme.isColorCharacter c = true := by
  have solid := isBlank_of_isAlphanum inClass
  have noComma : c ≠ ',' := by
    rintro rfl
    exact absurd inClass (by decide)
  have noBracket : c ≠ ']' := by
    rintro rfl
    exact absurd inClass (by decide)
  simp [Lexeme.isColorCharacter, solid, noComma, noBracket]

/-- A hexadecimal colour settles what the check of colours reports. -/
theorem settles_of_isColor (isColor : MarkerConfig.isColor value = true) :
    Settles checkColor .color (some .colorFormatInvalid) value := by
  obtain ⟨digits, rfl, hexWord⟩ : ∃ digits, value = '#' :: digits ∧
      Lexeme.isHexWord digits = true := by
    simp only [MarkerConfig.isColor] at isColor
    split at isColor
    · exact ⟨_, rfl, isColor⟩
    · simp at isColor
  have hex : ∀ c ∈ digits, Lexeme.isHexDigit c = true := by
    simp only [Lexeme.isHexWord, Bool.and_eq_true] at hexWord
    exact List.all_eq_true.mp hexWord.2
  have inside : ∀ c ∈ '#' :: digits, Lexeme.isColorCharacter c = true := by
    intro c member
    rcases List.mem_cons.mp member with rfl | isDigit
    · decide
    · exact isColorCharacter_of_isAlphanum (isAlphanum_of_isHexDigit (hex c isDigit))
  have unbroken : '\n' ∉ '#' :: digits := fun member => absurd (inside _ member) (by decide)
  refine ⟨inside, List.cons_ne_nil _ _, fun start again found => ?_⟩
  have noColor := (checkColor_reports found).2.1
  rw [isHexColor, withoutFinalBreak_of_notMem unbroken, isColor] at noColor
  exact absurd noColor (by decide)

/-- Every fix of a colour settles it. -/
theorem checkColor_settles (found : checkColor value start = some diagnostic)
    (offered : fix ∈ diagnostic.fixes) :
    Settles checkColor .color diagnostic.code fix.replacement := by
  have reports := (checkColor_reports found).2.2
  have palette : ∀ color ∈ paletteFixes.map (·.replacement),
      MarkerConfig.isColor color = true := by decide
  rw [reports.code_eq]
  apply settles_of_isColor
  rcases List.mem_cons.mp (reports.offers fix offered) with closest | common
  · rw [closest]
    exact isColor_fallbackColor value
  · exact palette _ common

end InlineMarkers.Validation
