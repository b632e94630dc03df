import InlineMarkers.Proofs.Completion.ContextWindow
import InlineMarkers.Proofs.Completion.Matching
import InlineMarkers.Proofs.Completion.StableOrder
import InlineMarkers.Proofs.Completion.TypedDay

/-!
# Which candidates are offered, and in which order

The candidates for what is typed are ordered by their scores, and those with the
same score as they stand in the table.  A completion takes as many from the front as
there is room for and arranges them by category, and within a category it leaves
them in that order.  So nothing that is left out scores better than what is offered,
more room only adds candidates, and a candidate that is all of what is typed is
always offered.
-/

namespace InlineMarkers

open Text Calendar

namespace Candidate

variable {kind : MarkerKind} {query : List Char} {date : PartialDate} {item left : Candidate}
  {ordered : List Candidate} {count : Nat}

/-! ## Scores -/

/-- The month whose days are the candidates, if it is typed up to the hyphen behind it. -/
def monthAsked? (kind : MarkerKind) (query : List Char) : Option PartialDate :=
  if kind = .date ∧ query.count '-' = 2 then PartialDate.ofText? query else none

/-- Nothing is typed that tells the candidates apart: no character that is not blank, or a date
up to the hyphen before its day. -/
def AsksForAll (kind : MarkerKind) (query : List Char) : Prop :=
  query.all isBlank = true ∨ ∃ date, monthAsked? kind query = some date ∧ date.day = []

/-- The score of a candidate for what is typed; of a day, for the digit that is typed of it. -/
def points (kind : MarkerKind) (query : List Char) (item : Candidate) : Nat :=
  match monthAsked? kind query with
  | some date => dayPoints date.day item
  | none => score (some kind) query item

/-- One candidate scores better than another one.  Where nothing is typed that tells the
candidates apart, they are not scored. -/
def ScoresBetter (kind : MarkerKind) (query : List Char) (better worse : Candidate) : Prop :=
  ¬AsksForAll kind query ∧ points kind query worse < points kind query better

theorem asksForDays_of_monthAsked (asked : monthAsked? kind query = some date) :
    AsksForDays (some kind) query date := by
  obtain ⟨⟨isDate, hyphens⟩, read⟩ := Option.ite_none_right_eq_some.mp asked
  exact ⟨congrArg some isDate, hyphens, read⟩

theorem table_of_some (asked : monthAsked? kind query = some date) :
    table (some kind) query = days date :=
  table_of_asksForDays (asksForDays_of_monthAsked asked)

theorem table_of_none (other : monthAsked? kind query = none) :
    table (some kind) query = ofKind kind := by
  simp only [table, monthAsked?, Option.some.injEq] at other ⊢
  split at other
  · rename_i asked
    rw [if_pos asked, other]
    rfl
  · rename_i unasked
    rw [if_neg unasked]
    rfl

theorem points_of_none (other : monthAsked? kind query = none) :
    points kind query = score (some kind) query := by
  funext item
  rw [points, other]

theorem points_of_some (asked : monthAsked? kind query = some date) :
    points kind query = dayPoints date.day := by
  funext item
  rw [points, asked]

/-- No candidate stands twice among those for what is typed. -/
theorem nodup_table (kind : MarkerKind) (query : List Char) :
    (table (some kind) query).Nodup := by
  cases asked : monthAsked? kind query with
  | none =>
      rw [table_of_none asked]
      cases kind <;> decide +kernel
  | some date =>
      rw [table_of_some asked]
      refine (pairwise_days date).imp ?_
      rintro earlier later ⟨first, second, ⟨-, written⟩, ⟨-, writtenLater⟩, increases⟩ rfl
      rw [eq_of_withDay_eq (written.symm.trans writtenLater)] at increases
      exact Nat.lt_irrefl _ increases

/-! ## The order of the candidates -/

/-- The candidates for what is typed in the order in which they are offered: all as they stand
in the table, or those that match, the best ones first. -/
inductive Ranks (kind : MarkerKind) (query : List Char) : List Candidate → Prop where
  | all : AsksForAll kind query → Ranks kind query (table (some kind) query)
  | best {ordered : List Candidate} : ¬AsksForAll kind query →
      SortedFrom (fun better worse => points kind query worse < points kind query better)
        ((table (some kind) query).filter (0 < points kind query ·)) ordered →
      Ranks kind query ordered

theorem days_of_not_valid (invalid : ¬date.isValid = true) : days date = [] := by
  simp [days, PartialDate.days, invalid]

theorem byScore_nil : byScore [] = [] := by
  simp [byScore]

theorem rank_nil (kind : Option MarkerKind) (query : List Char) : rank kind query [] = .ok [] := by
  rw [rank]
  split
  · rfl
  · exact congrArg Except.ok byScore_nil

theorem rank_of_asksForAll (all : AsksForAll kind query) :
    rank (some kind) query (table (some kind) query) = .ok (table (some kind) query) := by
  by_cases blank : query.all isBlank = true
  · rw [rank, if_pos blank]
  obtain ⟨date, asked, noDay⟩ := all.resolve_left blank
  rw [table_of_some asked]
  by_cases valid : date.isValid = true
  · rw [rank, if_neg blank, if_pos (areDays_days valid),
      dayDigits?_of_asksForDays (asksForDays_of_monthAsked asked), noDay]
  · rw [days_of_not_valid valid, rank_nil]

theorem rank_of_not_asksForAll (asksForSome : ¬AsksForAll kind query) :
    rank (some kind) query (table (some kind) query) =
      .ok (byScore ((table (some kind) query).map fun item => (points kind query item, item))) := by
  have solid : ¬query.all isBlank = true := fun blank => asksForSome (.inl blank)
  cases asked : monthAsked? kind query with
  | none =>
      have notDays : areDays (ofKind kind) = false := not_areDays_ofKind? (some kind)
      rw [table_of_none asked, points_of_none asked, rank, if_neg solid, notDays,
        if_neg Bool.false_ne_true]
  | some date =>
      have typed : date.day ≠ [] := fun noDay => asksForSome (.inr ⟨date, asked, noDay⟩)
      rw [table_of_some asked, points_of_some asked]
      by_cases valid : date.isValid = true
      · have digits := dayDigits?_of_asksForDays (asksForDays_of_monthAsked asked)
        exact rank_days _ valid (by simpa using solid) digits typed
      · rw [days_of_not_valid valid, rank_nil, List.map_nil, byScore_nil]

/-- Every query has ranked candidates. -/
theorem exists_ranks (kind : MarkerKind) (query : List Char) :
    ∃ ordered, rank (some kind) query (table (some kind) query) = .ok ordered ∧
      Ranks kind query ordered := by
  by_cases all : AsksForAll kind query
  · exact ⟨_, rank_of_asksForAll all, .all all⟩
  · exact ⟨_, rank_of_not_asksForAll all,
      .best all (sortedFrom_byScore (points kind query) (nodup_table kind query))⟩

namespace Ranks

variable {other : List Candidate}

theorem unique (ranks : Ranks kind query ordered) (ranksOther : Ranks kind query other) :
    ordered = other := by
  cases ranks with
  | all all =>
      cases ranksOther with
      | all => rfl
      | best asksForSome => exact absurd all asksForSome
  | best asksForSome sorted =>
      cases ranksOther with
      | all all => exact absurd all asksForSome
      | best _ sortedOther =>
          exact sorted.unique (fun _ _ => Nat.lt_asymm) ((nodup_table kind query).filter _)
            sortedOther

theorem nodup (ranks : Ranks kind query ordered) : ordered.Nodup := by
  cases ranks with
  | all => exact nodup_table kind query
  | best _ sorted => exact sorted.perm.nodup_iff.mpr ((nodup_table kind query).filter _)

theorem mem_of_points_pos (ranks : Ranks kind query ordered) (asksForSome : ¬AsksForAll kind query)
    (among : item ∈ table (some kind) query) (matched : 0 < points kind query item) :
    item ∈ ordered := by
  cases ranks with
  | all all => exact absurd all asksForSome
  | best _ sorted =>
      rw [sorted.perm.mem_iff, List.mem_filter, decide_eq_true_eq]
      exact ⟨among, matched⟩

theorem pairwise_points_le (ranks : Ranks kind query ordered)
    (asksForSome : ¬AsksForAll kind query) :
    ordered.Pairwise fun better worse => points kind query worse ≤ points kind query better := by
  cases ranks with
  | all all => exact absurd all asksForSome
  | best _ sorted =>
      exact sorted.inOrder.imp fun inOrder =>
        inOrder.elim Nat.le_of_lt fun notWorse => Nat.le_of_not_lt notWorse.1

/-- What is left out scores no better than what is taken from the front. -/
theorem points_le (ranks : Ranks kind query ordered) (asksForSome : ¬AsksForAll kind query)
    (among : left ∈ table (some kind) query) (isLeft : left ∉ ordered.take count)
    (isTaken : item ∈ ordered.take count) :
    points kind query left ≤ points kind query item := by
  rcases Nat.eq_zero_or_pos (points kind query left) with unmatched | matched
  · exact unmatched ▸ Nat.zero_le _
  · have inOrdered := ranks.mem_of_points_pos asksForSome among matched
    rw [← List.take_append_drop count ordered, List.mem_append] at inOrdered
    exact (ranks.pairwise_points_le asksForSome).rel_of_mem_take_of_mem_drop isTaken
      (inOrdered.resolve_left isLeft)

/-- If a candidate of a table is all of what is typed, such a candidate is never left out. -/
theorem exists_isExact (ranks : Ranks kind query ordered) (solid : ¬query.all isBlank = true)
    (noMonth : monthAsked? kind query = none) (among : item ∈ table (some kind) query)
    (isExact : IsExact query item) (filled : 1 ≤ count) :
    ∃ first ∈ ordered.take count, IsExact query first := by
  have asksForSome : ¬AsksForAll kind query := by
    rintro (blank | ⟨date, asked, -⟩)
    · exact solid blank
    · rw [noMonth] at asked
      cases asked
  have enough (candidate : Candidate) :
      exactScore ≤ points kind query candidate ↔ IsExact query candidate := by
    rw [points_of_none noMonth]
    exact exactScore_le_score_iff
  have scored := (enough item).mpr isExact
  by_cases isTaken : item ∈ ordered.take count
  · exact ⟨item, isTaken, isExact⟩
  · have inOrdered : item ∈ ordered :=
      ranks.mem_of_points_pos asksForSome among (Nat.lt_of_lt_of_le (by decide) scored)
    have notEmpty : ordered.take count ≠ [] := by
      rw [Ne, List.take_eq_nil_iff, not_or]
      exact ⟨Nat.ne_of_gt filled, List.ne_nil_of_mem inOrdered⟩
    obtain ⟨first, isFirst⟩ := List.exists_mem_of_ne_nil _ notEmpty
    have better := ranks.points_le asksForSome among isTaken isFirst
    exact ⟨first, isFirst, (enough first).mp (scored.trans better)⟩

end Ranks

end Candidate

/-! ## What a completion shows -/

namespace CompletionSource

variable {source other : CompletionSource} {result : CompletionResult} {text cursor limit : Value}

theorem exists_of_completeValue
    (answered : (source.completeValue text cursor limit).1 = some result) :
    ∃ typed position asked, text = .text typed ∧ optionalInteger cursor = .ok position ∧
      optionalInteger limit = .ok asked ∧
      (source.complete typed.toList position asked).1 = some result := by
  unfold completeValue at answered
  split at answered
  · rename_i typed position asked usable counts
    exact ⟨typed, position, asked, rfl, usable, counts, answered⟩
  · cases answered

theorem completeValue_of_usable {typed : String} {position asked : Option Int}
    (usable : optionalInteger cursor = .ok position) (counts : optionalInteger limit = .ok asked) :
    source.completeValue (.text typed) cursor limit =
      source.complete typed.toList position asked := by
  unfold completeValue
  rw [usable, counts]

theorem faithful_run (settings : MarkerConfig) (actions : List CompletionAction) :
    ((ofConfig settings).run actions).cache.Faithful := by
  have nothing : (ofConfig settings).cache.Faithful := CompletionCache.faithful_of_nil rfl
  exact (run_keeps nothing actions).1

/-- More room only adds candidates. -/
theorem exists_complete_of_room_le (faithful : source.cache.Faithful)
    (faithfulOther : other.cache.Faithful) {text : List Char} {cursor limit more : Option Int}
    (answered : (source.complete text cursor limit).1 = some result)
    (enough : room source.config limit ≤ room other.config more) :
    ∃ wider, (other.complete text cursor more).1 = some wider ∧ result.items ⊆ wider.items := by
  obtain ⟨context, items, detected, ranked, filled, rfl⟩ :=
    (complete_eq_some_iff faithful).mp answered
  refine ⟨_, (complete_eq_some_iff faithfulOther).mpr
    ⟨context, items, detected, ranked, filled, rfl⟩, fun item member => ?_⟩
  rw [Candidate.groupByCategory, List.mem_mergeSort] at member ⊢
  exact (List.take_subset_take_left items enough) member

/-- A completion shows as many of the candidates for what is typed as there is room for, the best
ones first before they are arranged by category, whatever the source was used for before.  So it
shows none twice, none that is left out scores better, more room only adds candidates, and of
the candidates of a table that are all of what is typed it always shows one. -/
theorem items_of_completeValue (settings : MarkerConfig) (actions : List CompletionAction)
    (text cursor limit : Value) {result : CompletionResult}
    (answered : (((ofConfig settings).run actions).completeValue text cursor limit).1 =
      some result) :
    let source := (ofConfig settings).run actions
    let kind := result.kind
    let query := result.query
    ∃ asked, optionalInteger limit = .ok asked ∧
      (∃ context, CompletionContext.detectValue text cursor = .ok (some context) ∧
        context.kind = kind ∧ context.query = query) ∧
      (∃! ordered, Candidate.Ranks kind query ordered ∧
        SortedFrom
          (fun first second => Candidate.categoryRank (some kind) first.category <
            Candidate.categoryRank (some kind) second.category)
          (ordered.take (room source.config asked)) result.items) ∧
      result.items.Nodup ∧
      (∀ left ∈ Candidate.table (some kind) query, left ∉ result.items →
        ∀ item ∈ result.items, ¬Candidate.ScoresBetter kind query left item) ∧
      (∀ otherSettings otherActions otherLimit more,
        let other := (ofConfig otherSettings).run otherActions
        optionalInteger otherLimit = .ok more →
        room source.config asked ≤ room other.config more →
        ∃ wider, (other.completeValue text cursor otherLimit).1 = some wider ∧
          result.items ⊆ wider.items) ∧
      (Candidate.monthAsked? kind query = none → ¬query.all isBlank = true →
        ∀ meant ∈ Candidate.table (some kind) query, Candidate.IsExact query meant →
          ∃ item ∈ result.items, Candidate.IsExact query item) := by
  have faithful := faithful_run settings actions
  obtain ⟨typed, position, asked, rfl, usable, counts, completed⟩ :=
    exists_of_completeValue answered
  obtain ⟨context, items, detected, ranked, -, rfl⟩ :=
    (complete_eq_some_iff faithful).mp completed
  obtain ⟨ordered, rankedToo, ranks⟩ := Candidate.exists_ranks context.kind context.query
  obtain rfl : ordered = items := Except.ok.inj (rankedToo.symm.trans ranked)
  intro source kind query
  have filled : 1 ≤ room source.config asked := Nat.le_max_left ..
  have distinct : (ordered.take (room source.config asked)).Nodup :=
    ranks.nodup.sublist (List.take_sublist ..)
  have sorted := Candidate.sortedFrom_groupByCategory (some kind) distinct
  have mem_iff (item : Candidate) := sorted.perm.mem_iff (a := item)
  refine ⟨asked, counts, ⟨context, ?_, rfl, rfl⟩,
    ⟨ordered, ⟨ranks, sorted⟩, fun _ another => another.1.unique ranks⟩, ?_, ?_, ?_, ?_⟩
  · rw [CompletionContext.detectValue_of_usable usable, detected]
  · exact sorted.perm.nodup_iff.mpr distinct
  · rintro left among isLeft item shown ⟨asksForSome, better⟩
    have bound := ranks.points_le asksForSome among (mt (mem_iff left).mpr isLeft)
      ((mem_iff item).mp shown)
    exact Nat.not_lt_of_le bound better
  · intro otherSettings otherActions otherLimit more other countsMore enough
    rw [completeValue_of_usable usable countsMore]
    exact exists_complete_of_room_le faithful (faithful_run otherSettings otherActions) completed
      enough
  · intro noMonth solid meant among isExact
    obtain ⟨first, isFirst, exactFirst⟩ :=
      ranks.exists_isExact solid noMonth among isExact filled
    exact ⟨first, (mem_iff first).mpr isFirst, exactFirst⟩

/-- With room for one candidate the team is shown, and not the lead of a team, who stands before
it in the table and is often meant. -/
theorem items_of_completeValue_team :
    let source := (ofConfig .standard).run [.complete (.text "by +TEAM") .null .null]
    ∃ result, (source.completeValue (.text "+TEAM") .null (.int 1)).1 = some result ∧
      (∃ team, result.items = [team] ∧ team.value = "team") ∧
      ∃ lead ∈ Candidate.assignees, lead.value = "team-lead" ∧ lead ∉ result.items ∧
        ∀ item ∈ result.items, ¬Candidate.ScoresBetter .assignee "TEAM".toList lead item := by
  intro source
  have faithful : source.cache.Faithful := faithful_run _ _
  obtain ⟨meant, isMeant, isExact⟩ :
      ∃ meant ∈ Candidate.assignees, Candidate.IsExact "TEAM".toList meant := by
    decide +kernel
  obtain ⟨lead, isLead, leads⟩ : ∃ lead ∈ Candidate.assignees, lead.value = "team-lead" := by
    decide +kernel
  have noMonth : Candidate.monthAsked? .assignee "TEAM".toList = none := by decide
  have solid : ¬"TEAM".toList.all isBlank = true := by decide
  -- sorting by score does not evaluate, so the answer is found by what is known of it
  obtain ⟨ordered, ranked, ranks⟩ := Candidate.exists_ranks .assignee "TEAM".toList
  obtain ⟨first, isFirst, -⟩ :=
    ranks.exists_isExact solid noMonth isMeant isExact (Nat.le_refl 1)
  have detected : CompletionContext.detect "+TEAM".toList none =
      some ⟨.assignee, "TEAM".toList, 0, 1, 5⟩ := by
    decide +kernel
  have usable : optionalInteger .null = .ok none := rfl
  have counted : optionalInteger (.int 1) = .ok (some 1) := rfl
  obtain ⟨items, answered⟩ : ∃ items, (source.completeValue (.text "+TEAM") .null (.int 1)).1 =
      some ⟨.assignee, "TEAM".toList, 1, 5, items⟩ := by
    rw [completeValue_of_usable usable counted]
    exact ⟨_, (complete_eq_some_iff faithful).mpr ⟨_, ordered, detected, ranked,
      List.ne_nil_of_mem (List.mem_of_mem_take isFirst), rfl⟩⟩
  obtain ⟨asked, counts, -, ⟨others, ⟨-, sorted⟩, -⟩, -, notBetter, -, exact⟩ :=
    items_of_completeValue _ _ _ _ _ answered
  obtain ⟨team, isTeam, exactTeam⟩ := exact noMonth solid meant isMeant isExact
  have short : items.length ≤ 1 := by
    obtain rfl : some 1 = asked := Except.ok.inj (counted.symm.trans counts)
    exact sorted.perm.length_eq.trans_le (List.length_take_le ..)
  obtain ⟨only, rfl⟩ : ∃ only, items = [only] :=
    List.length_eq_one_iff.mp (Nat.le_antisymm short (List.length_pos_of_mem isTeam))
  obtain rfl : team = only := List.mem_singleton.mp isTeam
  have isAssignee : team ∈ Candidate.assignees :=
    mem_table_of_completeValue faithful answered isTeam
  have teamOnly : ∀ item ∈ Candidate.assignees,
      Candidate.IsExact "TEAM".toList item → item.value = "team" := by
    decide +kernel
  have value := teamOnly team isAssignee exactTeam
  have isLeft : lead ∉ [team] := by
    rw [List.mem_singleton]
    rintro rfl
    exact absurd (value.symm.trans leads) (by decide)
  exact ⟨_, answered, ⟨team, rfl, value⟩, lead, isLead, leads, isLeft,
    notBetter lead isLead isLeft⟩

end CompletionSource

end InlineMarkers
