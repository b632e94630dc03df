import InlineMarkers.Proofs.Text.Slices
import InlineMarkers.Proofs.Text.UnitOffsets
import Mathlib.Order.Bounds.Defs

/-!
# Positions in units and the least index that reaches them

The unit positions of the indices of a text grow with the indices.  The index of
a unit position is the least one whose own position reaches it, so it is found
again from there; in the middle of a surrogate pair it is the index behind the
pair.
-/

namespace InlineMarkers.Text

variable {text : List Char} {first second position index : Nat}

theorem units_take_lt (ordered : first < second) (within : second ≤ text.length) :
    units (text.take first) < units (text.take second) := by
  induction text generalizing first second with
  | nil =>
      rw [List.length_nil] at within
      omega
  | cons c rest ih =>
      obtain ⟨last, rfl⟩ := Nat.exists_eq_add_one_of_ne_zero (Nat.ne_zero_of_lt ordered)
      rw [List.take_succ_cons, units_cons]
      cases first with
      | zero =>
          have := unitCount_pos c
          rw [List.take_zero, units_nil]
          omega
      | succ before =>
          rw [List.length_cons] at within
          have later := ih (Nat.lt_of_succ_lt_succ ordered) (Nat.le_of_succ_le_succ within)
          rw [List.take_succ_cons, units_cons]
          omega

/-- As many characters as it takes to reach a position are no more than those that reach it. -/
theorem charactersUpTo_le_iff :
    charactersUpTo text position ≤ index ↔
      position ≤ units (text.take index) ∨ text.length ≤ index := by
  induction text generalizing position index with
  | nil => simp [charactersUpTo]
  | cons c rest ih =>
      rw [charactersUpTo]
      split
      case isTrue atStart => simp [atStart]
      case isFalse further =>
          cases index with
          | zero => simpa using further
          | succ before =>
              rw [Nat.add_le_add_iff_right, ih, List.take_succ_cons, units_cons,
                List.length_cons, Nat.add_le_add_iff_right, Nat.sub_le_iff_le_add']

theorem indexOfUnit_le_length (text : List Char) (position : Int) :
    indexOfUnit text position ≤ text.length := by
  rw [indexOfUnit_eq, charactersUpTo_le_iff]
  exact .inr (Nat.le_refl _)

/-- The index of a unit position is not behind an index exactly when that one reaches the
position. -/
theorem indexOfUnit_le_iff {position : Int} (within : index < text.length) :
    indexOfUnit text position ≤ index ↔ position ≤ unitOffset text index := by
  rw [indexOfUnit_eq, charactersUpTo_le_iff, unitOffset_of_le (Nat.le_of_lt within),
    or_iff_left (Nat.not_le.mpr within), Int.toNat_le]

theorem unitOffset_lt (ordered : first < second) (within : second ≤ text.length) :
    unitOffset text first < unitOffset text second := by
  rw [unitOffset_of_le (Nat.le_trans (Nat.le_of_lt ordered) within), unitOffset_of_le within]
  exact units_take_lt ordered within

theorem indexOfUnit_unitOffset (within : index ≤ text.length) :
    indexOfUnit text (unitOffset text index) = index := by
  have found := indexOfUnit_units (text.take index) (text.drop index)
  rwa [List.take_append_drop, List.length_take, Nat.min_eq_left within,
    ← unitOffset_of_le within] at found

/-- The units between two characters are those of the characters between them. -/
theorem ofUnits_between (ordered : first ≤ second) (within : second ≤ text.length) :
    ofUnits (((toUnits text).drop (unitOffset text first)).take
      (unitOffset text second - unitOffset text first)) = slice text first second := by
  have count : units (text.take second) - units (text.take first) =
      units ((text.drop first).take (second - first)) := by
    rw [← take_append_slice text ordered, units_append, Nat.add_sub_cancel_left, slice]
  rw [unitOffset_of_le (Nat.le_trans ordered within), unitOffset_of_le within, drop_toUnits, count,
    take_toUnits, ofUnits_toUnits, slice]

/-- The indices of a text whose unit position is a given one or lies behind it. -/
def indicesReaching (text : List Char) (position : Int) : Set Nat :=
  {index | index ≤ text.length ∧ position ≤ unitOffset text index}

theorem isLeast_indexOfUnit {position : Int} (reaches : index ∈ indicesReaching text position) :
    IsLeast (indicesReaching text position) (indexOfUnit text position) := by
  have lower : ∀ other ∈ indicesReaching text position, indexOfUnit text position ≤ other := by
    rintro other ⟨within, reached⟩
    rcases Nat.lt_or_eq_of_le within with inside | rfl
    · exact (indexOfUnit_le_iff inside).mpr reached
    · exact indexOfUnit_le_length text position
  refine ⟨⟨indexOfUnit_le_length text position, ?_⟩, lower⟩
  rcases Nat.lt_or_eq_of_le (indexOfUnit_le_length text position) with inside | atEnd
  · exact (indexOfUnit_le_iff inside).mp (Nat.le_refl _)
  · -- the index that reaches the position is the end of the text too
    have atLeast := lower index reaches
    obtain ⟨within, reached⟩ := reaches
    obtain rfl : index = indexOfUnit text position := by omega
    exact reached

theorem indexOfUnit_of_unreached {position : Int}
    (unreached : indicesReaching text position = ∅) : indexOfUnit text position = text.length := by
  refine Nat.le_antisymm (indexOfUnit_le_length text position) (Nat.not_lt.mp fun inside => ?_)
  have reached : indexOfUnit text position ∈ indicesReaching text position :=
    ⟨Nat.le_of_lt inside, (indexOfUnit_le_iff inside).mp (Nat.le_refl _)⟩
  rw [unreached] at reached
  exact reached

theorem unitOffset_of_nonpos {index : Int} (before : index ≤ 0) : unitOffset text index = 0 := by
  rw [unitOffset_eq, clampIndex, Int.toNat_of_nonpos before, Nat.zero_min, List.take_zero,
    units_nil]

theorem unitOffset_of_length_le {index : Int} (behind : text.length ≤ index) :
    unitOffset text index = units text := by
  rw [unitOffset_eq, clampIndex, Nat.min_eq_right (by omega), List.take_length]

theorem indexOfUnit_of_nonpos {position : Int} (before : position ≤ 0) :
    indexOfUnit text position = 0 := by
  rw [indexOfUnit_eq, Int.toNat_of_nonpos before]
  cases text <;> rfl

theorem indexOfUnit_of_units_le {position : Int} (behind : units text ≤ position) :
    indexOfUnit text position = text.length := by
  refine Nat.le_antisymm (indexOfUnit_le_length text position) (Nat.not_lt.mp fun inside => ?_)
  have reached := (indexOfUnit_le_iff inside).mp (Nat.le_refl _)
  have fewer := units_take_lt inside (Nat.le_refl _)
  rw [unitOffset_of_le (Nat.le_of_lt inside)] at reached
  rw [List.take_length] at fewer
  omega

/-- Positions in units and indices of a text are turned into each other: the positions grow with
the indices, every index is found again, and any other position belongs to the least index that
reaches it, in a surrogate pair to the one behind the pair.  Both ways count characters and units
also where the text is ASCII, and what lies outside the text is brought to its nearer end. -/
theorem unitOffset_indexOfUnit (text : List Char) :
    (∀ first second : Nat, first < second → second ≤ text.length →
      unitOffset text first < unitOffset text second) ∧
    (∀ index : Nat, index ≤ text.length → indexOfUnit text (unitOffset text index) = index) ∧
    (∀ position : Int,
      ((indicesReaching text position).Nonempty →
        IsLeast (indicesReaching text position) (indexOfUnit text position)) ∧
      (indicesReaching text position = ∅ → indexOfUnit text position = text.length)) ∧
    (∀ (index : Nat) (position : Int), index < text.length → unitOffset text index < position →
      position < unitOffset text (index + 1) → indexOfUnit text position = index + 1) ∧
    (∀ index : Int,
      unitOffset text index = (toUnits (text.take (clampIndex index text.length))).length) ∧
    (∀ position : Int, indexOfUnit text position = charactersUpTo text position.toNat) ∧
    (∀ index : Int, (index ≤ 0 → unitOffset text index = 0) ∧
      (text.length ≤ index → unitOffset text index = (toUnits text).length)) ∧
    ∀ position : Int, (position ≤ 0 → indexOfUnit text position = 0) ∧
      ((toUnits text).length ≤ position → indexOfUnit text position = text.length) := by
  refine ⟨fun _ _ => unitOffset_lt, fun _ => indexOfUnit_unitOffset, fun position => ⟨?_, ?_⟩, ?_,
    fun index => ?_, indexOfUnit_eq text, fun index => ⟨unitOffset_of_nonpos, fun behind => ?_⟩,
    fun position => ⟨indexOfUnit_of_nonpos, fun behind => ?_⟩⟩
  · rintro ⟨index, reaches⟩
    exact isLeast_indexOfUnit reaches
  · exact indexOfUnit_of_unreached
  · intro index position inside behind before
    have notReached : ¬indexOfUnit text position ≤ index := fun notBehind =>
      Int.not_lt.mpr ((indexOfUnit_le_iff inside).mp notBehind) behind
    have reaches : index + 1 ∈ indicesReaching text position := ⟨inside, Int.le_of_lt before⟩
    have least := (isLeast_indexOfUnit reaches).2 reaches
    omega
  · rw [unitOffset_eq, length_toUnits]
  · rw [length_toUnits]
    exact unitOffset_of_length_le behind
  · rw [length_toUnits] at behind
    exact indexOfUnit_of_units_le behind

/-- The third position is the middle of a surrogate pair, the last one lies behind the text. -/
example : [0, 1, 2, 3, 4, 5].map (indexOfUnit "a😀b".toList) = [0, 1, 2, 2, 3, 3] := by
  decide +kernel

end InlineMarkers.Text
