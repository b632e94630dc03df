import InlineMarkers.Text.Blank
import Mathlib.Data.List.TakeDrop

/-!
# Slices of a text in pieces

A slice of a piece of a text is a slice of the text, moved by what stands before
the piece.
-/

namespace InlineMarkers.Text

theorem slice_zero_length (text : List Char) : slice text 0 text.length = text := by
  simp [slice]

/-- A slice that starts later is what is left of the slice behind so many characters. -/
theorem slice_add (text : List Char) (start count stop : Nat) :
    slice text (start + count) stop = (slice text start stop).drop count := by
  rw [slice, slice, List.drop_take, List.drop_drop, Nat.sub_sub]

/-- The text up to a place is what stands before a slice that ends there, and the slice. -/
theorem take_append_slice (text : List Char) {start stop : Nat} (ordered : start ≤ stop) :
    text.take start ++ slice text start stop = text.take stop := by
  rw [slice, ← List.take_add, Nat.add_sub_cancel' ordered]

/-- A slice of a text that stands behind another one. -/
theorem slice_append_left (before text : List Char) (start stop : Nat) :
    slice (before ++ text) (before.length + start) (before.length + stop) =
      slice text start stop := by
  rw [slice, slice, ← List.drop_drop, List.drop_left, Nat.add_sub_add_left]

/-- A slice depends on the text up to its end. -/
theorem slice_take (text : List Char) (start stop : Nat) :
    slice (text.take stop) start stop = slice text start stop := by
  rw [slice, slice, ← List.drop_take, ← List.drop_take, List.take_take, Nat.min_self]

/-- A slice that ends inside the middle one of three pieces. -/
theorem slice_append (before middle after : List Char) {start stop : Nat}
    (ordered : start ≤ stop) (inside : stop ≤ middle.length) :
    slice (before ++ (middle ++ after)) (before.length + start) (before.length + stop) =
      slice middle start stop := by
  rw [slice_append_left, slice, slice,
    List.drop_append_of_le_length (Nat.le_trans ordered inside),
    List.take_append_of_le_length (by rw [List.length_drop]; omega)]

end InlineMarkers.Text
