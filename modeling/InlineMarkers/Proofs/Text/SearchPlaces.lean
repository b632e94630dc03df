import InlineMarkers.Text.Search
import Mathlib.Data.List.TakeDrop
import Mathlib.Order.WellFounded

/-!
# Where a search finds a pattern

Whatever a search finds is what the pattern matches at the place of the match.
-/

namespace InlineMarkers.Text

variable {pattern : Pattern} {found : Found} {before rest text : List Char} {skip : Nat}

/-- A match is what the pattern matches at its place of a text. -/
def Found.Matches (found : Found) (pattern : Pattern) (text : List Char) : Prop :=
  pattern (text.take found.position).reverse (text.drop found.position) = some found.text

namespace Pattern

theorem matches_here {covered : List Char} (matched : pattern before rest = some covered) :
    (⟨before.length, covered⟩ : Found).Matches pattern (before.reverse ++ rest) := by
  rw [Found.Matches, List.take_left' (List.length_reverse), List.drop_left' (List.length_reverse),
    List.reverse_reverse, matched]

/-- A pattern that matches at some place of a text is found in it. -/
theorem isSome_firstFrom? (gap : List Char)
    (matched : (pattern (gap.reverse ++ before) rest).isSome = true) :
    (pattern.firstFrom? before (gap ++ rest)).isSome = true := by
  induction gap generalizing before with
  | nil =>
      obtain ⟨covered, matched⟩ := Option.isSome_iff_exists.mp matched
      rw [List.reverse_nil, List.nil_append] at matched
      cases rest <;> simp [firstFrom?, matched]
  | cons c gap ih =>
      rw [List.reverse_cons, List.append_assoc, List.singleton_append] at matched
      rw [List.cons_append, firstFrom?]
      split
      · rfl
      · exact ih matched

/-- A piece in which a pattern matches nowhere is passed over. -/
theorem firstFrom?_append {gap : List Char} (unmatched : ∀ front c back, gap = front ++ c :: back →
      pattern (front.reverse ++ before) (c :: back ++ rest) = none) :
    pattern.firstFrom? before (gap ++ rest) = pattern.firstFrom? (gap.reverse ++ before) rest := by
  induction gap generalizing before with
  | nil => rfl
  | cons d gap ih =>
      have here : pattern before (d :: (gap ++ rest)) = none := unmatched [] d gap rfl
      have later : pattern.firstFrom? (d :: before) (gap ++ rest) =
          pattern.firstFrom? (gap.reverse ++ d :: before) rest := by
        refine ih fun front c back cut => ?_
        have next := unmatched (d :: front) c back (congrArg (d :: ·) cut)
        rwa [List.reverse_cons, List.append_assoc, List.singleton_append] at next
      rw [List.cons_append, firstFrom?, here, later, List.reverse_cons, List.append_assoc,
        List.singleton_append]

/-- A pattern matches where a text is cut, and nowhere before. -/
structure FirstAt (pattern : Pattern) (before rest covered : List Char) : Prop where
  matched : pattern before.reverse rest = some covered
  unmatched : ∀ front c back, before = front ++ c :: back →
    pattern front.reverse (c :: back ++ rest) = none

theorem firstFrom?_of_match {covered : List Char} (matched : pattern before rest = some covered) :
    pattern.firstFrom? before rest = some ⟨before.length, covered⟩ := by
  cases rest with
  | nil => rw [firstFrom?, matched, Option.map_some]
  | cons c rest => rw [firstFrom?, matched]

theorem exists_cut_of_firstFrom? (isFound : pattern.firstFrom? before rest = some found) :
    ∃ gap after, rest = gap ++ after ∧ found.position = before.length + gap.length ∧
      pattern (gap.reverse ++ before) after = some found.text ∧
      ∀ front c back, gap = front ++ c :: back →
        pattern (front.reverse ++ before) (c :: back ++ after) = none := by
  fun_induction firstFrom? pattern before rest with
  | case1 before =>
      obtain ⟨covered, matched, rfl⟩ := Option.map_eq_some_iff.mp isFound
      exact ⟨[], [], rfl, rfl, matched, by simp⟩
  | case2 before c rest covered matched =>
      obtain rfl := Option.some.inj isFound
      exact ⟨[], c :: rest, rfl, rfl, matched, by simp⟩
  | case3 before c rest unmatched ih =>
      obtain ⟨gap, after, rfl, place, matched, unmatchedLater⟩ := ih isFound
      refine ⟨c :: gap, after, rfl, ?_, ?_, ?_⟩
      · rw [place, List.length_cons, List.length_cons, Nat.add_right_comm, Nat.add_assoc]
      · rwa [List.reverse_cons, List.append_assoc, List.singleton_append]
      · intro front d back cut
        cases front with
        | nil =>
            obtain ⟨rfl, rfl⟩ := List.cons.inj cut
            exact unmatched
        | cons e front =>
            obtain ⟨rfl, later⟩ := List.cons.inj cut
            rw [List.reverse_cons, List.append_assoc, List.singleton_append]
            exact unmatchedLater front d back later

theorem matches_of_firstFrom? (isFound : pattern.firstFrom? before rest = some found) :
    found.Matches pattern (before.reverse ++ rest) := by
  obtain ⟨gap, after, rfl, place, matched, -⟩ := exists_cut_of_firstFrom? isFound
  have isMatch := matches_here matched
  rwa [List.reverse_append, List.reverse_reverse, List.append_assoc, List.length_append,
    List.length_reverse, Nat.add_comm gap.length, ← place] at isMatch

/-- The first match in a text cuts it where the match starts. -/
theorem first?_eq_some_iff :
    pattern.first? text = some found ↔
      ∃ before rest, text = before ++ rest ∧ found.position = before.length ∧
        pattern.FirstAt before rest found.text := by
  constructor
  · intro isFound
    obtain ⟨gap, after, isText, place, matched, unmatched⟩ := exists_cut_of_firstFrom? isFound
    refine ⟨gap, after, isText, by rw [place, List.length_nil, Nat.zero_add], ?_, ?_⟩
    · rwa [List.append_nil] at matched
    · intro front c back cut
      have nothing := unmatched front c back cut
      rwa [List.append_nil] at nothing
  · rintro ⟨before, rest, rfl, place, first⟩
    have passed : pattern.first? (before ++ rest) =
        pattern.firstFrom? (before.reverse ++ []) rest :=
      firstFrom?_append fun front c back cut => by
        rw [List.append_nil]
        exact first.unmatched front c back cut
    rw [passed, List.append_nil, firstFrom?_of_match first.matched, List.length_reverse, ← place]

theorem matches_of_mem_allFrom (member : found ∈ pattern.allFrom skip before rest) :
    found.Matches pattern (before.reverse ++ rest) := by
  fun_induction allFrom pattern skip before rest with
  | case1 => simp at member
  | case2 skip before c rest ih =>
      have later := ih member
      rwa [List.reverse_cons, List.append_assoc, List.singleton_append] at later
  | case3 before c rest covered matched ih =>
      rcases List.mem_cons.mp member with rfl | isLater
      · exact matches_here matched
      · have later := ih isLater
        rwa [List.reverse_cons, List.append_assoc, List.singleton_append] at later
  | case4 before c rest unmatched ih =>
      have later := ih member
      rwa [List.reverse_cons, List.append_assoc, List.singleton_append] at later

theorem matches_of_mem_all (member : found ∈ pattern.all text) : found.Matches pattern text :=
  matches_of_mem_allFrom member

/-- No match of a pattern starts inside another one. -/
def Apart (pattern : Pattern) : Prop :=
  ∀ (text : List Char) (first second : Found), first.Matches pattern text →
    second.Matches pattern text → first.position < second.position → first.stop ≤ second.position

theorem mem_allFrom_of_matches (apart : pattern.Apart)
    (isMatch : found.Matches pattern (before.reverse ++ rest))
    (skipped : before.length + skip ≤ found.position)
    (inside : found.position < before.length + rest.length) :
    found ∈ pattern.allFrom skip before rest := by
  fun_induction allFrom pattern skip before rest with
  | case1 =>
      rw [List.length_nil] at inside
      omega
  | case2 skip before c rest ih =>
      apply ih
      · rwa [List.reverse_cons, List.append_assoc, List.singleton_append]
      · rw [List.length_cons]
        omega
      · rw [List.length_cons] at inside ⊢
        omega
  | case3 before c rest covered matched ih =>
      have here : (⟨before.length, covered⟩ : Found).Matches pattern
        (before.reverse ++ c :: rest) := matches_here matched
      rcases Nat.lt_or_eq_of_le skipped with later | same
      · have behind : before.length + covered.length ≤ found.position :=
          apart _ _ _ here isMatch later
        refine List.mem_cons_of_mem _ (ih ?_ ?_ ?_)
        · rwa [List.reverse_cons, List.append_assoc, List.singleton_append]
        · rw [List.length_cons]
          omega
        · rw [List.length_cons] at inside ⊢
          omega
      · rw [Nat.add_zero] at same
        rw [Found.Matches, same] at here
        have sameText : covered = found.text := Option.some.inj (here.symm.trans isMatch)
        rw [same, sameText]
        exact List.mem_cons_self
  | case4 before c rest unmatched ih =>
      apply ih
      · rwa [List.reverse_cons, List.append_assoc, List.singleton_append]
      · rcases Nat.lt_or_eq_of_le skipped with later | same
        · rw [List.length_cons]
          omega
        · rw [Nat.add_zero] at same
          rw [Found.Matches, ← same, List.take_left' List.length_reverse,
            List.drop_left' List.length_reverse, List.reverse_reverse, unmatched] at isMatch
          simp at isMatch
      · rw [List.length_cons] at inside ⊢
        omega

/-- All that a pattern matches is a beginning of the text at its place, and not the empty one. -/
def CoversText (pattern : Pattern) : Prop :=
  ∀ before rest covered, pattern before rest = some covered → covered ≠ [] ∧ covered <+: rest

end Pattern

/-- A match lies in the text. -/
theorem Found.Matches.inside (isMatch : found.Matches pattern text) (covers : pattern.CoversText) :
    found.position < found.stop ∧ found.stop ≤ text.length := by
  obtain ⟨nonempty, begins⟩ := covers _ _ _ isMatch
  have filled := List.length_pos_iff.mpr nonempty
  have size := begins.length_le
  rw [List.length_drop] at size
  rw [Found.stop]
  omega

namespace Pattern

/-- When no match starts inside another one, a search for all of them finds each. -/
theorem mem_all_iff (covers : pattern.CoversText) (apart : pattern.Apart) :
    found ∈ pattern.all text ↔ found.Matches pattern text := by
  refine ⟨matches_of_mem_all, fun isMatch => ?_⟩
  have inside := isMatch.inside covers
  refine mem_allFrom_of_matches apart isMatch (Nat.zero_le _) ?_
  rw [List.length_nil]
  omega

theorem le_position_of_mem_allFrom (member : found ∈ pattern.allFrom skip before rest) :
    before.length + skip ≤ found.position := by
  fun_induction allFrom pattern skip before rest with
  | case1 => simp at member
  | case2 skip before c rest ih =>
      have later := ih member
      rw [List.length_cons] at later
      omega
  | case3 before c rest covered matched ih =>
      rcases List.mem_cons.mp member with rfl | isLater
      · exact Nat.le_refl _
      · have later := ih isLater
        rw [List.length_cons] at later
        omega
  | case4 before c rest unmatched ih =>
      have later := ih member
      rw [List.length_cons] at later
      omega

/-- The matches of a search stand one behind another. -/
theorem pairwise_allFrom (pattern : Pattern) (skip : Nat) (before rest : List Char) :
    (pattern.allFrom skip before rest).Pairwise fun first second =>
      first.position < second.position := by
  fun_induction allFrom pattern skip before rest with
  | case1 => exact .nil
  | case2 skip before c rest ih => exact ih
  | case3 before c rest covered matched ih =>
      refine List.pairwise_cons.mpr ⟨fun later isLater => ?_, ih⟩
      have behind := le_position_of_mem_allFrom isLater
      rw [List.length_cons] at behind
      show before.length < later.position
      omega
  | case4 before c rest unmatched ih => exact ih

theorem pairwise_all (pattern : Pattern) (text : List Char) :
    (pattern.all text).Pairwise fun first second => first.position < second.position :=
  pairwise_allFrom pattern 0 [] text

end Pattern

/-- Of the matches that fulfil a condition, one that starts nowhere behind another. -/
structure Found.IsFirst (wanted : Found → Prop) (found : Found) : Prop where
  isWanted : wanted found
  first : ∀ other, wanted other → found.position ≤ other.position

theorem Found.exists_isFirst (wanted : Found → Prop) (isWanted : wanted found) :
    ∃ first, Found.IsFirst wanted first := by
  obtain ⟨first, alsoWanted, noEarlier⟩ :=
    (measure Found.position).wf.has_min (Set.ofPred wanted) ⟨found, isWanted⟩
  exact ⟨first, alsoWanted, fun other isOther => Nat.le_of_not_lt (noEarlier other isOther)⟩

/-- In a list of matches one behind another, the first that fulfils a condition is the one in
front of which none does. -/
theorem Found.isFirst_iff_cut {all : List Found} {wanted : Found → Prop}
    (ordered : all.Pairwise fun first second => first.position < second.position) :
    Found.IsFirst (fun other => other ∈ all ∧ wanted other) found ↔
      wanted found ∧ ∃ front back, all = front ++ found :: back ∧
        ∀ earlier ∈ front, ¬wanted earlier := by
  constructor
  · rintro ⟨⟨member, isWanted⟩, first⟩
    obtain ⟨front, back, rfl⟩ := List.append_of_mem member
    refine ⟨isWanted, front, back, rfl, fun earlier isEarlier alsoWanted => ?_⟩
    have before := (List.pairwise_append.mp ordered).2.2 earlier isEarlier found List.mem_cons_self
    have behind := first earlier ⟨List.mem_append_left _ isEarlier, alsoWanted⟩
    omega
  · rintro ⟨isWanted, front, back, rfl, unwanted⟩
    refine ⟨⟨List.mem_append_right front List.mem_cons_self, isWanted⟩, ?_⟩
    rintro other ⟨member, alsoWanted⟩
    rcases List.mem_append.mp member with isEarlier | hereOrLater
    · exact absurd alsoWanted (unwanted other isEarlier)
    · rcases List.mem_cons.mp hereOrLater with rfl | later
      · exact Nat.le_refl _
      · have rest := (List.pairwise_append.mp ordered).2.1
        exact Nat.le_of_lt ((List.pairwise_cons.mp rest).1 other later)

end InlineMarkers.Text
