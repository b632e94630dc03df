import InlineMarkers.Completion.Ranking
import InlineMarkers.Proofs.Order.StableSorting

/-!
# Stable orders of candidates

Candidates are put in order twice, by their scores and by their categories.  Neither
order tells all candidates apart, and where it does not, the candidates stay as they
stood before.  This makes the new order the only one.
-/

namespace InlineMarkers

namespace Candidate

variable {candidates : List Candidate}

/-- Sorting by score is stable. -/
theorem sortedFrom_byScore (points : Candidate → Nat) (distinct : candidates.Nodup) :
    SortedFrom (fun better worse => points worse < points better)
      (candidates.filter (0 < points ·))
      (byScore (candidates.map fun item => (points item, item))) := by
  have sorted : byScore (candidates.map fun item => (points item, item)) =
      (candidates.filter (0 < points ·)).mergeSort fun better worse =>
        points worse ≤ points better := by
    have decorated := List.map_mergeSort (l := candidates.filter (0 < points ·))
      (f := fun item => (points item, item)) (r := fun better worse => points worse ≤ points better)
      (s := fun left right => right.1 ≤ left.1) fun _ _ _ _ => rfl
    rw [byScore, List.filter_map]
    change (((candidates.filter (0 < points ·)).map fun item => (points item, item)).mergeSort
      fun left right => decide (right.1 ≤ left.1)).map (·.2) = _
    rw [← decorated, List.map_map]
    exact List.map_id _
  rw [sorted]
  refine sortedFrom_mergeSort ?_ ?_ ?_ (distinct.filter _)
  · intro a b c ab bc
    rw [decide_eq_true_eq] at ab bc ⊢
    exact Nat.le_trans bc ab
  · intro a b
    simpa using Nat.le_total (points b) (points a)
  · intro a b
    rw [decide_eq_false_iff_not, Nat.not_le]

/-- Arranging by category is stable. -/
theorem sortedFrom_groupByCategory (kind : Option MarkerKind) (distinct : candidates.Nodup) :
    SortedFrom
      (fun first second => categoryRank kind first.category < categoryRank kind second.category)
      candidates (groupByCategory kind candidates) := by
  refine sortedFrom_mergeSort ?_ ?_ ?_ distinct
  · intro a b c ab bc
    rw [decide_eq_true_eq] at ab bc ⊢
    exact Nat.le_trans ab bc
  · intro a b
    simpa using Nat.le_total (categoryRank kind a.category) (categoryRank kind b.category)
  · intro a b
    rw [decide_eq_false_iff_not, Nat.not_le]

end Candidate

end InlineMarkers
