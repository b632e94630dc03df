import InlineMarkers.Proofs.Text.UnitPairs

/-!
# Places in units and in characters

A text is cut between two of its characters at the same place whether it is
counted in units or in characters: the units up to there are those of the
characters up to there.  From the place in units the index in characters is
found again.  That an ASCII text is not counted makes no difference.
-/

namespace InlineMarkers.Text

theorem toUnits_append (before rest : List Char) :
    toUnits (before ++ rest) = toUnits before ++ toUnits rest :=
  List.flatMap_append

/-! ## ASCII texts -/

section Ascii

variable {c : Char} {text : List Char}

theorem isAscii_cons : isAscii (c :: text) = true ↔ c.toNat < 0x80 ∧ isAscii text = true := by
  rw [isAscii, isAscii, List.all_cons, Bool.and_eq_true, decide_eq_true_eq]

theorem unitCount_of_ascii (ascii : c.toNat < 0x80) : unitCount c = 1 := by
  rw [unitCount_eq, if_pos (by omega)]

theorem units_of_isAscii (ascii : isAscii text = true) : units text = text.length := by
  induction text with
  | nil => rfl
  | cons c text ih =>
      obtain ⟨here, there⟩ := isAscii_cons.mp ascii
      rw [units_cons, unitCount_of_ascii here, ih there, List.length_cons, Nat.add_comm]

theorem isAscii_take (ascii : isAscii text = true) (count : Nat) :
    isAscii (text.take count) = true := by
  rw [isAscii, List.all_eq_true] at ascii ⊢
  exact fun c member => ascii c (List.mem_of_mem_take member)

theorem charactersUpTo_of_isAscii (ascii : isAscii text = true) (position : Nat) :
    charactersUpTo text position = min position text.length := by
  induction text generalizing position with
  | nil => simp [charactersUpTo]
  | cons c text ih =>
      obtain ⟨here, there⟩ := isAscii_cons.mp ascii
      rw [charactersUpTo, unitCount_of_ascii here, ih there, List.length_cons]
      split <;> omega

end Ascii

theorem unitOffset_eq (text : List Char) (index : Int) :
    unitOffset text index = units (text.take (clampIndex index text.length)) := by
  unfold unitOffset
  dsimp only
  split
  case isTrue ascii =>
      rw [units_of_isAscii (isAscii_take ascii _), List.length_take, clampIndex, Nat.min_assoc,
        Nat.min_self]
  case isFalse => rfl

theorem indexOfUnit_eq (text : List Char) (position : Int) :
    indexOfUnit text position = charactersUpTo text position.toNat := by
  unfold indexOfUnit
  split
  case isTrue ascii => exact (charactersUpTo_of_isAscii ascii _).symm
  case isFalse => rfl

theorem unitOffset_of_le {text : List Char} {index : Nat} (within : index ≤ text.length) :
    unitOffset text index = units (text.take index) := by
  rw [unitOffset_eq, clampIndex, Int.toNat_natCast, Nat.min_eq_left within]

/-! ## A text in two pieces -/

theorem charactersUpTo_units (before rest : List Char) :
    charactersUpTo (before ++ rest) (units before) = before.length := by
  induction before with
  | nil => cases rest <;> simp [charactersUpTo]
  | cons c before ih =>
      have notThere : unitCount c + units before ≠ 0 := by
        have := unitCount_pos c
        omega
      rw [List.cons_append, units_cons, charactersUpTo, if_neg notThere, Nat.add_sub_cancel_left,
        ih, List.length_cons]

/-- Behind the units of the first piece stands the first character of the other. -/
theorem indexOfUnit_units (before rest : List Char) :
    indexOfUnit (before ++ rest) (units before) = before.length := by
  rw [indexOfUnit_eq, Int.toNat_natCast, charactersUpTo_units]

variable (text : List Char) (index : Nat)

theorem toUnits_take_append_drop :
    toUnits (text.take index) ++ toUnits (text.drop index) = toUnits text := by
  rw [← toUnits_append, List.take_append_drop]

/-- The units in front of a character are those of the characters in front of it. -/
theorem take_toUnits :
    (toUnits text).take (units (text.take index)) = toUnits (text.take index) := by
  rw [← toUnits_take_append_drop text index, ← length_toUnits, List.take_left]

theorem drop_toUnits :
    (toUnits text).drop (units (text.take index)) = toUnits (text.drop index) := by
  rw [← toUnits_take_append_drop text index, ← length_toUnits, List.drop_left]

end InlineMarkers.Text
