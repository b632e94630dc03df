import InlineMarkers.Text.Fields
import Mathlib.Data.List.TakeDrop

/-!
# Cutting texts that are put together

The fields of a text that is written field by field are those fields, so cutting
a text that was joined gives its pieces back.
-/

namespace InlineMarkers.Text

variable {separator : Char} {field rest : List Char}

theorem fields_of_notMem (unbroken : separator ∉ field) : fields separator field = [field] := by
  induction field with
  | nil => rfl
  | cons c field ih =>
      have other : (c == separator) = false := by
        rw [beq_eq_false_iff_ne]
        rintro rfl
        exact unbroken List.mem_cons_self
      simp [fields, other, ih fun member => unbroken (List.mem_cons_of_mem c member)]

/-- The first field ends at the first separator. -/
theorem fields_append_separator (unbroken : separator ∉ field) (rest : List Char) :
    fields separator (field ++ separator :: rest) = field :: fields separator rest := by
  induction field with
  | nil => simp [fields]
  | cons c field ih =>
      have other : (c == separator) = false := by
        rw [beq_eq_false_iff_ne]
        rintro rfl
        exact unbroken List.mem_cons_self
      simp [fields, other, ih fun member => unbroken (List.mem_cons_of_mem c member)]

/-- Cutting undoes joining when no field holds the separator. -/
theorem fields_joinFields {pieces : List (List Char)} (filled : pieces ≠ [])
    (unbroken : ∀ piece ∈ pieces, separator ∉ piece) :
    fields separator (joinFields separator pieces) = pieces := by
  induction pieces with
  | nil => exact absurd rfl filled
  | cons piece others ih =>
      have first := unbroken piece List.mem_cons_self
      cases others with
      | nil => exact fields_of_notMem first
      | cons next more =>
          rw [joinFields, fields_append_separator first,
            ih (List.cons_ne_nil next more) fun other member =>
              unbroken other (List.mem_cons_of_mem piece member)]
          exact List.cons_ne_nil next more

/-- A text that is typed up to some place is typed up to a place of its first field, or beyond
the separator behind that. -/
theorem prefix_append_separator {typed : List Char}
    (begins : typed <+: field ++ separator :: rest) :
    typed <+: field ∨ ∃ more, typed = field ++ separator :: more ∧ more <+: rest := by
  obtain ⟨untyped, whole⟩ := begins
  rcases List.append_eq_append_iff.mp whole with ⟨left, rfl, -⟩ | ⟨typedRest, rfl, behind⟩
  · exact .inl (List.prefix_append typed left)
  · cases typedRest with
    | nil =>
        rw [List.append_nil]
        exact .inl List.prefix_rfl
    | cons c more =>
        rw [List.cons_append, List.cons.injEq] at behind
        obtain ⟨rfl, rfl⟩ := behind
        exact .inr ⟨more, rfl, List.prefix_append more untyped⟩

end InlineMarkers.Text
