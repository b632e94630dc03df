import InlineMarkers.Text.Units

/-!
# Characters from their units

The units of a text give its characters back.  A character of the basic plane
is no surrogate, so it is never taken for half of a pair.
-/

namespace InlineMarkers.Text

variable {c : Char} {unit : Nat}

theorem toNat_bounds (c : Char) :
    c.toNat < 0xD800 ∨ 0xDFFF < c.toNat ∧ c.toNat < 0x110000 :=
  c.valid

/-- No character is a surrogate. -/
theorem not_surrogate (c : Char) :
    isHighSurrogate c.toNat = false ∧ isLowSurrogate c.toNat = false := by
  have bounds := toNat_bounds c
  simp only [isHighSurrogate, isLowSurrogate, Bool.and_eq_false_iff, decide_eq_false_iff_not]
  omega

theorem characterOfCode_toNat (c : Char) : characterOfCode c.toNat = c := by
  rw [characterOfCode, (not_surrogate c).1, (not_surrogate c).2]
  exact Char.ofNat_toNat c

theorem unit_lt_of_mem_characterUnits (member : unit ∈ characterUnits c) : unit < 0x10000 := by
  have bounds := toNat_bounds c
  simp only [characterUnits] at member
  split at member
  · simp only [List.mem_singleton] at member
    omega
  · simp only [List.mem_cons, List.not_mem_nil, or_false] at member
    omega

/-- The units of a character, before those of a text, are read as that character. -/
theorem ofUnits_characterUnits (c : Char) (units : List Nat) :
    ofUnits (characterUnits c ++ units) = c :: ofUnits units := by
  simp only [characterUnits]
  split
  case isTrue basic =>
      rw [List.singleton_append]
      cases units with
      | nil => simp only [ofUnits, characterOfCode_toNat]
      | cons low rest =>
          simp only [ofUnits, (not_surrogate c).1, Bool.false_and, Bool.false_eq_true, if_false,
            characterOfCode_toNat]
  case isFalse astral =>
      have bounds := toNat_bounds c
      have pair : (isHighSurrogate (0xD800 + (c.toNat - 0x10000) / 0x400) &&
          isLowSurrogate (0xDC00 + (c.toNat - 0x10000) % 0x400)) = true := by
        simp only [isHighSurrogate, isLowSurrogate, Bool.and_eq_true, decide_eq_true_eq]
        omega
      have code : 0x10000 + (0xD800 + (c.toNat - 0x10000) / 0x400 - 0xD800) * 0x400 +
          (0xDC00 + (c.toNat - 0x10000) % 0x400 - 0xDC00) = c.toNat := by
        omega
      simp only [List.cons_append, List.nil_append, ofUnits, pair, if_true, characterOfPair, code,
        Char.ofNat_toNat]

/-- A text is read back from its units. -/
theorem ofUnits_toUnits (text : List Char) : ofUnits (toUnits text) = text := by
  induction text with
  | nil => rfl
  | cons c rest ih =>
      rw [toUnits, List.flatMap_cons, ofUnits_characterUnits]
      exact congrArg (c :: ·) ih

end InlineMarkers.Text
