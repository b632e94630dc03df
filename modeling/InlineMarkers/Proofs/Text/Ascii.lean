import InlineMarkers.Text.Blank
import InlineMarkers.Text.LowerCase
import InlineMarkers.Text.WordCharacter
import Mathlib.Data.List.Basic

/-!
# ASCII characters

What the Unicode definitions of blanks, of word characters and of lower case come
to on ASCII letters and digits, and what they leave alone.
-/

namespace InlineMarkers.Text

theorem isUpper_iff_toNat {c : Char} : c.isUpper = true ↔ 65 ≤ c.toNat ∧ c.toNat ≤ 90 :=
  decide_eq_true_iff

theorem isLower_iff_toNat {c : Char} : c.isLower = true ↔ 97 ≤ c.toNat ∧ c.toNat ≤ 122 :=
  (Bool.and_eq_true_iff).trans (and_congr decide_eq_true_iff decide_eq_true_iff)

theorem isAlpha_iff_toNat {c : Char} :
    c.isAlpha = true ↔ (65 ≤ c.toNat ∧ c.toNat ≤ 90) ∨ (97 ≤ c.toNat ∧ c.toNat ≤ 122) :=
  Bool.or_eq_true_iff.trans (or_congr isUpper_iff_toNat isLower_iff_toNat)

theorem isAlpha_of_isLower {c : Char} (isLower : c.isLower = true) : c.isAlpha = true :=
  Bool.or_eq_true_iff.mpr (.inr isLower)

theorem isDigit_iff_toNat {c : Char} : c.isDigit = true ↔ 48 ≤ c.toNat ∧ c.toNat ≤ 57 :=
  Char.isDigit_iff_toNat

theorem isAlpha_of_isDigit {c : Char} (digit : c.isDigit = true) : c.isAlpha = false := by
  rw [isDigit_iff_toNat] at digit
  rw [Bool.eq_false_iff, ne_eq, isAlpha_iff_toNat]
  omega

theorem isAlphanum_iff {c : Char} : c.isAlphanum = true ↔ c.isAlpha = true ∨ c.isDigit = true :=
  Bool.or_eq_true_iff

/-- Lower-casing moves the capital letters only. -/
theorem toNat_toLower (c : Char) :
    c.toLower.toNat = if 65 ≤ c.toNat ∧ c.toNat ≤ 90 then c.toNat + 32 else c.toNat := by
  by_cases capital : 65 ≤ c.toNat ∧ c.toNat ≤ 90
  · have moved : c.toLower.val = c.val + ('a'.val - 'A'.val) := congrArg Char.val (dif_pos capital)
    have sum : (c.val + ('a'.val - 'A'.val)).toNat = (c.toNat + 32) % 2 ^ 32 :=
      UInt32.toNat_add _ _
    rw [if_pos capital, ← Char.toNat_val, moved, sum]
    omega
  · have kept : c.toLower = c := dif_neg capital
    rw [if_neg capital, kept]

theorem isAlpha_toLower (c : Char) : c.toLower.isAlpha = c.isAlpha := by
  rw [Bool.eq_iff_iff, isAlpha_iff_toNat, isAlpha_iff_toNat, toNat_toLower]
  split <;> omega

/-- Nothing else has the lower case of a character that is no letter. -/
theorem eq_of_toLower_eq {c d : Char} (noLetter : d.isAlpha = false) (same : c.toLower = d) :
    c = d := by
  rw [← same, isAlpha_toLower, Bool.eq_false_iff, ne_eq, isAlpha_iff_toNat] at noLetter
  rw [← same, ← Char.toNat_inj, toNat_toLower, if_neg fun capital => noLetter (.inl capital)]

theorem isDigit_toLower (c : Char) : c.toLower.isDigit = c.isDigit := by
  rw [Bool.eq_iff_iff, isDigit_iff_toNat, isDigit_iff_toNat, toNat_toLower]
  split <;> omega

theorem isAlphanum_toLower (c : Char) : c.toLower.isAlphanum = c.isAlphanum := by
  simp only [Char.isAlphanum, isAlpha_toLower, isDigit_toLower]

theorem toNat_lt_of_isAlphanum {c : Char} (inClass : c.isAlphanum = true) : c.toNat < 0x80 := by
  rcases isAlphanum_iff.mp inClass with letter | digit
  · rw [isAlpha_iff_toNat] at letter
    omega
  · rw [isDigit_iff_toNat] at digit
    omega

theorem toNat_lt_of_isAlpha {c : Char} (isLetter : c.isAlpha = true) : c.toNat < 0x80 :=
  toNat_lt_of_isAlphanum (isAlphanum_iff.mpr (.inl isLetter))

theorem isBlank_of_isAlphanum {c : Char} (inClass : c.isAlphanum = true) : isBlank c = false := by
  have bounds : (65 ≤ c.toNat ∧ c.toNat ≤ 90 ∨ 97 ≤ c.toNat ∧ c.toNat ≤ 122) ∨
      48 ≤ c.toNat ∧ c.toNat ≤ 57 := by
    rwa [isAlphanum_iff, isAlpha_iff_toNat, isDigit_iff_toNat] at inClass
  simp only [isBlank, Bool.or_eq_false_iff, Bool.and_eq_false_iff, decide_eq_false_iff_not,
    beq_eq_false_iff_ne]
  omega

/-- What the first ranges of a table cover, the table covers. -/
theorem covers_append {first : CodePointRanges} {code : Nat} (covered : first.covers code = true)
    (others : CodePointRanges) : CodePointRanges.covers (first ++ others) code = true := by
  induction first with
  | nil => simp [CodePointRanges.covers_nil] at covered
  | cons range first ih =>
      rw [CodePointRanges.covers] at covered
      rw [List.cons_append, CodePointRanges.covers]
      split at covered
      · simp at covered
      · rename_i low
        rw [if_neg low]
        split at covered
        · rename_i high
          rw [if_pos high]
        · rename_i high
          rw [if_neg high, ih covered]

theorem isWordCharacter_of_isAlpha {c : Char} (isLetter : c.isAlpha = true) :
    isWordCharacter c = true := by
  have covered : CodePointRanges.covers [(0x30, 0x39), (0x41, 0x5A), (0x5F, 0x5F), (0x61, 0x7A)]
      c.toNat = true := by
    rcases isAlpha_iff_toNat.mp isLetter with capital | small
    · rw [CodePointRanges.covers, if_neg (by omega), if_neg (by omega), CodePointRanges.covers,
        if_neg (by omega), if_pos (by omega)]
    · rw [CodePointRanges.covers, if_neg (by omega), if_neg (by omega), CodePointRanges.covers,
        if_neg (by omega), if_neg (by omega), CodePointRanges.covers, if_neg (by omega),
        if_neg (by omega), CodePointRanges.covers, if_neg (by omega), if_pos (by omega)]
  rw [isWordCharacter, ← List.take_append_drop 4 wordRanges]
  exact covers_append covered _

/-- A text without a sigma is lower-cased character by character. -/
theorem lowerAfter_of_noSigma {text : List Char} (noSigma : 'Σ' ∉ text) (afterCased : Bool) :
    lowerAfter afterCased text = text.flatMap lowerCharacter := by
  induction text generalizing afterCased with
  | nil => rfl
  | cons c text ih =>
      rw [List.mem_cons, not_or] at noSigma
      have other : ¬(c == 'Σ') = true := fun same => noSigma.1 (eq_of_beq same).symm
      rw [lowerAfter, if_neg other, ih noSigma.2, List.flatMap_cons]

theorem lowerAfter_of_ascii {text : List Char} (ascii : ∀ c ∈ text, c.toNat < 0x80)
    (afterCased : Bool) : lowerAfter afterCased text = text.map Char.toLower := by
  have noSigma : 'Σ' ∉ text := fun member => absurd (ascii 'Σ' member) (by decide)
  rw [lowerAfter_of_noSigma noSigma, List.map_eq_flatMap]
  exact List.flatMap_congr fun c member => lowerCharacter_of_ascii (ascii c member)

/-- Only a sigma looks ahead when it is lower-cased, and no sigma has an ASCII lower case. -/
theorem lowerAfter_prefix_of_ascii {front back : List Char} {afterCased : Bool}
    (ascii : ∀ c ∈ lowerAfter afterCased (front ++ back), c.toNat < 0x80) :
    lowerAfter afterCased front <+: lowerAfter afterCased (front ++ back) := by
  induction front generalizing afterCased with
  | nil => exact List.nil_prefix
  | cons c front ih =>
      rw [List.cons_append, lowerAfter] at ascii ⊢
      rw [lowerAfter]
      have noSigma : ¬(c == 'Σ') = true := by
        intro isSigma
        have first := ascii (if afterCased && !nextIsCased (front ++ back) then 'ς' else 'σ')
          (List.mem_append_left _ (by simp [isSigma]))
        split at first <;> exact absurd first (by decide)
      rw [if_neg noSigma, if_neg noSigma, List.prefix_append_right_inj]
      exact ih fun d member => ascii d (List.mem_append_right _ member)

theorem toLower_mem_lowerAfter {text : List Char} {c : Char} (member : c ∈ text)
    (ascii : c.toNat < 0x80) (afterCased : Bool) : c.toLower ∈ lowerAfter afterCased text := by
  induction text generalizing afterCased with
  | nil => exact absurd member List.not_mem_nil
  | cons first text ih =>
      rw [lowerAfter, List.mem_append]
      rcases List.mem_cons.mp member with rfl | later
      · left
        have noSigma : (c == 'Σ') = false := by
          rw [beq_eq_false_iff_ne]
          rintro rfl
          exact absurd ascii (by decide)
        simp [noSigma, lowerCharacter_of_ascii ascii]
      · exact .inr (ih later _)

/-- An ASCII character of any text is lower-cased on its own. -/
theorem toLower_mem_lower {text : List Char} {c : Char} (member : c ∈ text)
    (ascii : c.toNat < 0x80) : c.toLower ∈ lower text :=
  toLower_mem_lowerAfter member ascii false

/-- An ASCII text is lower-cased character by character. -/
theorem lower_of_ascii {text : List Char} (ascii : ∀ c ∈ text, c.toNat < 0x80) :
    lower text = text.map Char.toLower :=
  lowerAfter_of_ascii ascii false

/-- The lower case of a text begins with that of its beginning, where it is ASCII. -/
theorem lower_prefix_of_ascii {front text : List Char} (begins : front <+: text)
    (ascii : ∀ c ∈ lower text, c.toNat < 0x80) : lower front <+: lower text := by
  obtain ⟨back, rfl⟩ := begins
  exact lowerAfter_prefix_of_ascii ascii

end InlineMarkers.Text
