import InlineMarkers.Completion.Ranking
import InlineMarkers.Proofs.Text.Ascii
import Mathlib.Data.List.Infix
import Mathlib.Data.List.NodupEquivFin

/-!
# Candidates that match what is typed

A candidate has a score when what is typed is a part of its value or label, or when
its characters stand in the value in their order.  Case does not count.  Both
notions pass to the beginnings of what is typed, so typing on never brings in a
candidate of a table that was not there before.

A candidate that is all of what is typed scores more than every other one, whatever
is added because a candidate is often meant.
-/

namespace InlineMarkers

open Text

namespace Candidate

variable {kind : Option MarkerKind} {part typed longer query target : List Char}
  {item : Candidate}

/-! ## Parts and subsequences -/

theorem isPart_iff : isPart part target = true ↔ part <:+: target := by
  induction target with
  | nil => simp [isPart]
  | cons c target ih =>
      rw [isPart, Bool.or_eq_true, List.isPrefixOf_iff_prefix, ih, List.infix_cons_iff]

/-- Taking every character at the first place where it occurs misses nothing. -/
theorem isSubsequence_iff : isSubsequence part target = true ↔ part.Sublist target := by
  induction part generalizing target with
  | nil => simp [isSubsequence]
  | cons c part ih =>
      induction target with
      | nil => simp [isSubsequence]
      | cons d target ihTarget =>
          rw [isSubsequence] at ihTarget ⊢
          by_cases same : d = c
          · subst same
            simpa using ih
          · have skipped : (c :: part).Sublist (d :: target) ↔ (c :: part).Sublist target := by
              simp [List.sublist_cons_iff, Ne.symm same]
            rw [skipped, ← ihTarget, List.dropWhile_cons_of_pos (by simpa using same)]

/-- A text is a subsequence exactly when each of its characters has a place with the same character
in the other text, each place behind the one before it. -/
theorem isSubsequence_iff_exists_places (part target : List Char) :
    isSubsequence part target = true ↔
      ∃ place : Fin part.length → Fin target.length,
        StrictMono place ∧ ∀ index, target[place index] = part[index] := by
  rw [isSubsequence_iff, List.sublist_iff_exists_fin_orderEmbedding_get_eq]
  constructor
  · rintro ⟨place, same⟩
    exact ⟨place, place.strictMono, fun index => (same index).symm⟩
  · rintro ⟨place, increasing, same⟩
    exact ⟨OrderEmbedding.ofStrictMono place increasing, fun index => (same index).symm⟩

/-! ## What has a score -/

/-- What is typed is found in a candidate: it is part of the value or the label, or it can be
read in the value by skipping characters.  Both are in lower case. -/
def IsFoundIn (typed : List Char) (item : Candidate) : Prop :=
  typed <:+: lower item.value.toList ∨ typed <:+: lower item.label.toList ∨
    typed.Sublist (lower item.value.toList)

/-- What is typed is the whole value or the whole label of a candidate, but for its case. -/
def IsExact (query : List Char) (item : Candidate) : Prop :=
  lower query = lower item.value.toList ∨ lower query = lower item.label.toList

instance : Decidable (IsExact query item) :=
  inferInstanceAs (Decidable (_ ∨ _))

/-- The beginning of what is found is found. -/
theorem IsFoundIn.of_prefix (found : IsFoundIn longer item) (begins : typed <+: longer) :
    IsFoundIn typed item :=
  found.imp begins.isInfix.trans (Or.imp begins.isInfix.trans begins.sublist.trans)

theorem matchScore_pos_iff : 0 < matchScore query item ↔ IsFoundIn (lower query) item := by
  simp only [matchScore, Bool.or_eq_true, beq_iff_eq, List.isPrefixOf_iff_prefix, isPart_iff,
    isSubsequence_iff]
  split
  · rename_i isExact
    refine iff_of_true (by decide) ?_
    rcases isExact with isValue | isLabel
    · exact .inl (isValue ▸ List.infix_rfl)
    · exact .inr (.inl (isLabel ▸ List.infix_rfl))
  split
  · rename_i begins
    exact iff_of_true (by decide)
      (begins.imp List.IsPrefix.isInfix fun inLabel => .inl inLabel.isInfix)
  split
  · rename_i inside
    exact iff_of_true (by decide) (inside.imp_right .inl)
  · rename_i outside
    rw [not_or] at outside
    split
    · rename_i skipping
      exact iff_of_true (by decide) (.inr (.inr skipping))
    · rename_i notSkipping
      refine iff_of_false (Nat.lt_irrefl 0) ?_
      rintro (inValue | inLabel | skipping)
      · exact outside.1 inValue
      · exact outside.2 inLabel
      · exact notSkipping skipping

theorem score_pos_iff (kind : Option MarkerKind) :
    0 < score kind query item ↔ IsFoundIn (lower query) item := by
  rw [← matchScore_pos_iff]
  simp only [score]
  split <;> omega

/-! ## Exact matches -/

theorem typeBoost_le (kind : Option MarkerKind) (item : Candidate) : typeBoost kind item ≤ 50 := by
  rcases kind with _ | kind
  · exact Nat.zero_le 50
  · cases kind <;> simp only [typeBoost] <;> split <;> decide

theorem matchScore_of_exact (isExact : IsExact query item) :
    matchScore query item = exactScore := by
  simp only [matchScore, Bool.or_eq_true, beq_iff_eq]
  exact if_pos isExact

theorem matchScore_le_of_not_exact (other : ¬IsExact query item) :
    matchScore query item ≤ startScore := by
  simp only [matchScore, Bool.or_eq_true, beq_iff_eq]
  rw [IsExact] at other
  rw [if_neg other]
  split
  · exact Nat.le_refl startScore
  split
  · decide
  split <;> decide

/-- Nothing that is added makes up for a match that is not exact. -/
theorem exactScore_le_score_iff : exactScore ≤ score kind query item ↔ IsExact query item := by
  have boost := typeBoost_le kind item
  by_cases isExact : IsExact query item
  · refine iff_of_true ?_ isExact
    simp only [score, matchScore_of_exact isExact, exactScore]
    split <;> omega
  · refine iff_of_false ?_ isExact
    have bound := matchScore_le_of_not_exact isExact
    simp only [startScore] at bound
    simp only [score, exactScore]
    split <;> omega

/-! ## Typing on -/

theorem not_areDays_ofKind? (kind : Option MarkerKind) : areDays (ofKind? kind) = false := by
  cases kind with
  | none => rfl
  | some kind => cases kind <;> decide

/-- The tables are written in ASCII, and so are their lower cases. -/
theorem lower_ascii_of_mem_ofKind? (member : item ∈ ofKind? kind) :
    (∀ c ∈ lower item.value.toList, c.toNat < 0x80) ∧
      ∀ c ∈ lower item.label.toList, c.toNat < 0x80 := by
  have tables : ∀ kind, ∀ item ∈ ofKind kind,
      (item.value.toList ++ item.label.toList).all (·.toNat < 0x80) = true := by
    intro kind
    cases kind <;> decide +kernel
  have written : ∀ c ∈ item.value.toList ++ item.label.toList, c.toNat < 0x80 := by
    cases kind with
    | none => exact absurd member List.not_mem_nil
    | some kind => simpa only [List.all_eq_true, decide_eq_true_eq] using tables kind item member
  have lowered (text : List Char) (ascii : ∀ c ∈ text, c.toNat < 0x80) :
      ∀ c ∈ lower text, c.toNat < 0x80 := by
    intro c inLower
    rw [lower_of_ascii ascii] at inLower
    obtain ⟨d, inText, rfl⟩ := List.mem_map.mp inLower
    have small := ascii d inText
    rw [toNat_toLower]
    split <;> omega
  exact ⟨lowered _ fun c inValue => written c (List.mem_append_left _ inValue),
    lowered _ fun c inLabel => written c (List.mem_append_right _ inLabel)⟩

/-- What is typed of a text that is found in a candidate of a table is found there, too. -/
theorem IsFoundIn.of_typed (found : IsFoundIn (lower longer) item) (member : item ∈ ofKind? kind)
    (begins : typed <+: longer) : IsFoundIn (lower typed) item := by
  obtain ⟨valueAscii, labelAscii⟩ := lower_ascii_of_mem_ofKind? member
  have ascii : ∀ c ∈ lower longer, c.toNat < 0x80 := by
    rcases found with inValue | inLabel | skipping
    · exact fun c inLower => valueAscii c (inValue.subset inLower)
    · exact fun c inLower => labelAscii c (inLabel.subset inLower)
    · exact fun c inLower => valueAscii c (skipping.subset inLower)
  exact found.of_prefix (lower_prefix_of_ascii begins ascii)

/-- Of a table, a query finds the candidates that match, or all if nothing is typed. -/
theorem exists_rank_ofKind? (kind : Option MarkerKind) (query : List Char) :
    ∃ items, rank kind query (ofKind? kind) = .ok items ∧
      ∀ item, item ∈ items ↔
        item ∈ ofKind? kind ∧ (query.all isBlank = true ∨ IsFoundIn (lower query) item) := by
  rw [rank, not_areDays_ofKind?]
  by_cases blank : query.all isBlank = true
  · rw [if_pos blank]
    exact ⟨_, rfl, by simp [blank]⟩
  · rw [if_neg blank, if_neg Bool.false_ne_true]
    refine ⟨_, rfl, fun item => ?_⟩
    simp only [byScore, List.mem_map, List.mem_mergeSort, List.mem_filter, decide_eq_true_eq,
      blank, false_or, ← score_pos_iff kind, Bool.false_eq_true]
    constructor
    · rintro ⟨_, ⟨⟨item, member, rfl⟩, positive⟩, rfl⟩
      exact ⟨member, positive⟩
    · rintro ⟨member, positive⟩
      exact ⟨_, ⟨⟨item, member, rfl⟩, positive⟩, rfl⟩

/-- For every kind of marker, typing on never brings in a candidate that was not there before. -/
theorem rank_narrows (kind : Option MarkerKind) {typed longer : List Char}
    (begins : typed <+: longer) :
    ∃ before after, rank kind typed (ofKind? kind) = .ok before ∧
      rank kind longer (ofKind? kind) = .ok after ∧ after ⊆ before := by
  obtain ⟨before, ranked, found⟩ := exists_rank_ofKind? kind typed
  obtain ⟨after, rankedLonger, foundLonger⟩ := exists_rank_ofKind? kind longer
  refine ⟨before, after, ranked, rankedLonger, fun item member => ?_⟩
  obtain ⟨inTable, matched⟩ := (foundLonger item).mp member
  refine (found item).mpr ⟨inTable, matched.imp (fun blank => ?_) fun isFound => ?_⟩
  · rw [List.all_eq_true] at blank ⊢
    exact fun c inTyped => blank c (begins.subset inTyped)
  · exact isFound.of_typed inTable begins

/-- The Kelvin sign is lower-cased to a letter of the task, which is found before it is typed
by its first letters. -/
theorem rank_narrows_of_kelvin_sign :
    "TA".toList <+: "TAs\u212A".toList ∧
      ∃ before after, rank (some .tag) "TA".toList tags = .ok before ∧
        rank (some .tag) "TAs\u212A".toList tags = .ok after ∧ after ⊆ before ∧
        after.map (·.value) = ["task"] := by
  have begins : "TA".toList <+: "TAs\u212A".toList := by decide
  obtain ⟨before, after, ranked, rankedLonger, narrows⟩ := rank_narrows (some .tag) begins
  refine ⟨begins, before, after, ranked, rankedLonger, narrows, ?_⟩
  have seen : (rank (some .tag) "TAs\u212A".toList tags).map (·.map (·.value)) =
      .ok ["task"] := by
    decide +kernel
  rw [show rank (some .tag) "TAs\u212A".toList tags = .ok after from rankedLonger] at seen
  exact Except.ok.inj seen

end Candidate

end InlineMarkers
