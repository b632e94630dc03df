import Mathlib.Data.List.Forall2

/-!
# Attempts

What may fail is attempted for every item of a list.  That comes to an end exactly
when no item fails, and then there is one result for each of them.
-/

namespace InlineMarkers

variable {α β ε : Type} {f : α → Except ε β} {xs : List α} {ys : List β}

theorem bind_eq_ok_iff {attempt : Except ε α} {y : β} :
    (attempt >>= f) = .ok y ↔ ∃ x, attempt = .ok x ∧ f x = .ok y := by
  cases attempt <;> simp [bind, Except.bind]

theorem mapM_eq_ok_iff : xs.mapM f = .ok ys ↔ List.Forall₂ (fun x y => f x = .ok y) xs ys := by
  induction xs generalizing ys with
  | nil =>
      rw [List.mapM_nil, List.forall₂_nil_left_iff, eq_comm]
      exact ⟨Except.ok.inj, congrArg Except.ok⟩
  | cons x xs ih =>
      simp only [List.mapM_cons, bind_eq_ok_iff, List.forall₂_cons_left_iff]
      constructor
      · rintro ⟨y, first, others, rest, same⟩
        cases same
        exact ⟨y, others, first, ih.mp rest, rfl⟩
      · rintro ⟨y, others, first, rest, rfl⟩
        exact ⟨y, first, others, ih.mpr rest, rfl⟩

theorem exists_of_mem_mapM {y : β} (mapped : xs.mapM f = .ok ys) (member : y ∈ ys) :
    ∃ x ∈ xs, f x = .ok y := by
  have each := mapM_eq_ok_iff.mp mapped
  induction each with
  | nil => exact absurd member List.not_mem_nil
  | @cons x first xs ys attempt rest ih =>
      rcases List.mem_cons.mp member with rfl | later
      · exact ⟨x, List.mem_cons_self, attempt⟩
      · obtain ⟨source, inRest, isResult⟩ := ih (mapM_eq_ok_iff.mpr rest) later
        exact ⟨source, List.mem_cons_of_mem x inRest, isResult⟩

/-- Where no item fails, a list is mapped to the list of the results. -/
theorem mapM_eq_ok_map {g : α → β} (each : ∀ x ∈ xs, f x = .ok (g x)) :
    xs.mapM f = .ok (xs.map g) := by
  rw [mapM_eq_ok_iff, List.forall₂_map_right_iff, List.forall₂_same]
  exact each

/-- A list is only mapped to results that the items can have. -/
theorem eq_map_of_mapM (mapped : xs.mapM f = .ok ys) {g : α → β}
    (result : ∀ x y, f x = .ok y → y = g x) : ys = xs.map g := by
  have each := mapM_eq_ok_iff.mp mapped
  induction each with
  | nil => rfl
  | cons attempt rest ih =>
      rw [List.map_cons, result _ _ attempt, ih (mapM_eq_ok_iff.mpr rest)]

theorem exists_mapM_iff : (∃ ys, xs.mapM f = .ok ys) ↔ ∀ x ∈ xs, ∃ y, f x = .ok y := by
  constructor
  · rintro ⟨ys, mapped⟩
    have each := mapM_eq_ok_iff.mp mapped
    intro x member
    induction each with
    | nil => exact absurd member List.not_mem_nil
    | cons attempt rest ih =>
        rcases List.mem_cons.mp member with rfl | later
        · exact ⟨_, attempt⟩
        · exact ih (mapM_eq_ok_iff.mpr rest) later
  · intro each
    induction xs with
    | nil => exact ⟨[], rfl⟩
    | cons x xs ih =>
        obtain ⟨y, attempt⟩ := each x List.mem_cons_self
        obtain ⟨ys, rest⟩ := ih fun other member => each other (List.mem_cons_of_mem x member)
        exact ⟨y :: ys, mapM_eq_ok_iff.mpr (.cons attempt (mapM_eq_ok_iff.mp rest))⟩

end InlineMarkers
