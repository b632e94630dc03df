import Mathlib.Data.List.Perm.Basic

/-!
# Stable sorting

A stable sort puts a list in order and leaves the elements that the order does not
tell apart as they stand.  Of a list without repetitions there is one such order
only, and merge sort finds it.
-/

namespace InlineMarkers

variable {α : Type} {goesBefore : α → α → Prop} {le : α → α → Bool} {source sorted : List α}
  {first second : α}

/-- A list in a new order, in which the elements that the order does not tell apart stay as
they stand in the source. -/
structure SortedFrom (goesBefore : α → α → Prop) (source sorted : List α) : Prop where
  perm : sorted.Perm source
  inOrder : sorted.Pairwise fun first second =>
    goesBefore first second ∨ ¬goesBefore second first ∧ [first, second].Sublist source

/-- Of two elements of a list one stands before the other one. -/
theorem pair_sublist_or (isFirst : first ∈ source) (isSecond : second ∈ source)
    (different : first ≠ second) :
    [first, second].Sublist source ∨ [second, first].Sublist source := by
  obtain ⟨before, after, rfl⟩ := List.append_of_mem isFirst
  rcases List.mem_append.mp isSecond with earlier | later
  · right
    exact (List.singleton_sublist.mpr earlier).append
      (List.cons_sublist_cons.mpr (List.nil_sublist after))
  · left
    have behind : second ∈ after := (List.mem_cons.mp later).resolve_left (Ne.symm different)
    exact ((List.singleton_sublist.mpr behind).cons_cons first).trans
      (List.sublist_append_right before _)

theorem not_pair_sublist_swap (distinct : source.Nodup)
    (standsBefore : [first, second].Sublist source) : ¬[second, first].Sublist source := by
  intro standsBehind
  have same : [first, second] = [second, first] :=
    (List.Nodup.perm_iff_eq_of_sublist distinct standsBefore standsBehind).mp (.swap ..)
  have different : first ≠ second := by simpa using distinct.sublist standsBefore
  exact different (List.cons.inj same).1

/-- Merge sort keeps the order of the source where it can. -/
theorem sortedFrom_mergeSort (trans : ∀ a b c, le a b = true → le b c = true → le a c = true)
    (total : ∀ a b, (le a b || le b a) = true)
    (agrees : ∀ a b, goesBefore a b ↔ le b a = false) (distinct : source.Nodup) :
    SortedFrom goesBefore source (source.mergeSort le) where
  perm := List.mergeSort_perm source le
  inOrder := by
    have distinctSorted : (source.mergeSort le).Nodup :=
      (List.mergeSort_perm source le).nodup_iff.mpr distinct
    rw [List.pairwise_iff_forall_sublist]
    intro first second standsBefore
    have ordered : le first second = true := by
      have pair := (List.pairwise_mergeSort trans total source).sublist standsBefore
      exact List.rel_of_pairwise_cons pair List.mem_cons_self
    rw [agrees, agrees, ordered]
    cases backwards : le second first with
    | false => exact .inl rfl
    | true =>
        right
        refine ⟨Bool.noConfusion, ?_⟩
        have members := standsBefore.subset
        have different : first ≠ second := by simpa using distinctSorted.sublist standsBefore
        have isFirst : first ∈ source := List.mem_mergeSort.mp (members (by simp))
        have isSecond : second ∈ source := List.mem_mergeSort.mp (members (by simp))
        refine (pair_sublist_or isFirst isSecond different).resolve_right fun standsBehind => ?_
        exact not_pair_sublist_swap distinctSorted standsBefore
          (List.pair_sublist_mergeSort trans total backwards standsBehind)

/-- A stable order is the only one. -/
theorem SortedFrom.unique {other : List α} (asymm : ∀ a b, goesBefore a b → ¬goesBefore b a)
    (distinct : source.Nodup) (one : SortedFrom goesBefore source sorted)
    (another : SortedFrom goesBefore source other) : sorted = other := by
  refine (one.perm.trans another.perm.symm).eq_of_pairwise ?_ one.inOrder another.inOrder
  rintro a b - - (before | ⟨notBehind, standsBefore⟩) (behind | ⟨notBefore, standsBehind⟩)
  · exact absurd behind (asymm a b before)
  · exact absurd before notBefore
  · exact absurd behind notBehind
  · exact absurd standsBehind (not_pair_sublist_swap distinct standsBefore)

end InlineMarkers
