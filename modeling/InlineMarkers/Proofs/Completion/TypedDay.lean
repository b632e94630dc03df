import InlineMarkers.Proofs.Completion.MonthDays

/-!
# Completing the first digit of a day

When one digit of the day is typed, the days are ranked by their labels, and a label
has no leading zero.  So the tens, the twenties and the thirties that begin with the
digit are found, but of the first nine days, which begin with a zero when they are
written, none is found by that zero.
-/

namespace InlineMarkers

open Text Calendar Validation

namespace Candidate

variable {kind : Option MarkerKind} {query digits year month : List Char} {item : Candidate}
  {date : PartialDate} {day : Nat} {digit : Char}

/-! ## The score of a day -/

theorem label_ofDay (date : PartialDate) (day : Nat) :
    (ofDay date day).label.toList = Nat.toDigits 10 day := by
  simp [ofDay, Nat.repr]

/-- The label of a day is a number. -/
theorem integer?_toDigits (small : day ≤ 31) :
    Numeral.integer? (Nat.toDigits 10 day) = some (day : Int) := by
  have days : ∀ day ≤ 31, Numeral.integer? (Nat.toDigits 10 day) = some (day : Int) := by
    decide +kernel
  exact days day small

/-- A day has a score for the digits that its label begins with. -/
theorem exists_dayScore_ofDay (digits : List Char) (date : PartialDate) (small : day ≤ 31) :
    ∃ score, dayScore digits (ofDay date day) = .ok score ∧
      (0 < score ↔ digits <+: Nat.toDigits 10 day) := by
  have exact_pos : 0 < exactScore := by decide
  have start_pos : 0 < startScore := by decide
  simp only [dayScore, label_ofDay]
  by_cases whole : Nat.toDigits 10 day = digits
  · exact ⟨_, if_pos (beq_iff_eq.mpr whole), iff_of_true (by omega) (whole ▸ List.prefix_rfl)⟩
  rw [if_neg (by simpa using whole)]
  by_cases begins : digits <+: Nat.toDigits 10 day
  · rw [if_pos (List.isPrefixOf_iff_prefix.mpr begins), integer?_toDigits small]
    exact ⟨_, rfl, iff_of_true (by omega) begins⟩
  · rw [if_neg (by simpa [List.isPrefixOf_iff_prefix] using begins)]
    exact ⟨0, rfl, iff_of_false (Nat.lt_irrefl 0) begins⟩

theorem exists_eq_ofDay (member : item ∈ days date) :
    ∃ day, 0 < day ∧ day ≤ 31 ∧ item = ofDay date day := by
  obtain ⟨-, day, first, last, rfl⟩ := exists_day_of_mem_days member
  have longest := daysInMonth_le_thirtyOne date.monthNumber date.yearNumber
  exact ⟨day, first, by omega, rfl⟩

/-- The score of a candidate by the digits typed of a day; zero if it has none. -/
def dayPoints (digits : List Char) (item : Candidate) : Nat :=
  (dayScore digits item).toOption.getD 0

/-- Every day has a score, which is positive if its label begins with what is typed. -/
theorem dayScore_eq_dayPoints (digits : List Char) (member : item ∈ days date) :
    dayScore digits item = .ok (dayPoints digits item) ∧
      (0 < dayPoints digits item ↔ digits <+: item.label.toList) := by
  obtain ⟨day, -, small, rfl⟩ := exists_eq_ofDay member
  obtain ⟨score, scored, positive⟩ := exists_dayScore_ofDay digits date small
  have points : dayPoints digits (ofDay date day) = score := by
    rw [dayPoints, scored]
    rfl
  rw [points, label_ofDay]
  exact ⟨scored, positive⟩

theorem areDays_days (valid : date.isValid = true) : areDays (days date) = true := by
  have inYear := PartialDate.month_inside valid
  have enough := twentyEight_le_daysInMonth date.yearNumber inYear.1 inYear.2
  obtain ⟨others, listed⟩ : ∃ others, date.days.toNat = others + 1 :=
    ⟨date.days.toNat - 1, by rw [PartialDate.days, if_pos valid]; omega⟩
  simp [areDays, days, listed, List.range_succ_eq_map, ofDay]

/-- Days are ranked by the digits that are typed of a day. -/
theorem rank_days (kind : Option MarkerKind) (valid : date.isValid = true)
    (solid : query.all isBlank = false) (typed : dayDigits? query = some digits)
    (filled : digits ≠ []) :
    rank kind query (days date) =
      .ok (byScore ((days date).map fun item => (dayPoints digits item, item))) := by
  have scored : (days date).mapM (fun item => (dayScore digits item).map (·, item)) =
      .ok ((days date).map fun item => (dayPoints digits item, item)) := by
    refine mapM_eq_ok_map fun item member => ?_
    rw [(dayScore_eq_dayPoints digits member).1]
    rfl
  rw [rank, if_neg (by simp [solid]), if_pos (areDays_days valid), typed]
  obtain ⟨first, rest, rfl⟩ := List.exists_cons_of_ne_nil filled
  simp only [scored]
  rfl

/-- The days of a month that are found by the digits of a day are those whose labels begin with
these digits. -/
theorem exists_rank_days (kind : Option MarkerKind) (valid : date.isValid = true)
    (solid : query.all isBlank = false) (typed : dayDigits? query = some digits)
    (filled : digits ≠ []) :
    ∃ items, rank kind query (days date) = .ok items ∧
      ∀ item ∈ days date, item ∈ items ↔ digits <+: item.label.toList := by
  refine ⟨_, rank_days kind valid solid typed filled, fun item member => ?_⟩
  rw [mem_byScore, ← (dayScore_eq_dayPoints digits member).2]
  constructor
  · rintro ⟨score, positive, isScored⟩
    obtain ⟨_, -, isPair⟩ := List.mem_map.mp isScored
    obtain ⟨rfl, rfl⟩ := Prod.mk.inj isPair
    exact positive
  · intro positive
    exact ⟨_, positive, List.mem_map_of_mem member⟩

/-! ## A date up to its day -/

/-- A date that is typed with both hyphens is its year, its month and its day, and maybe a line
break. -/
theorem exists_parts_of_ofText? (read : PartialDate.ofText? query = some date)
    (hyphens : query.count '-' = 2) :
    IsDigits 4 4 date.year ∧ IsDigits 1 2 date.month ∧ IsDigits 0 1 date.day ∧
      UpToBreak query (date.year ++ '-' :: (date.month ++ '-' :: date.day)) := by
  have upTo := upToBreak_withoutFinalBreak query
  have joined := joinFields_fields '-' (withoutFinalBreak query)
  have counted : query.count '-' = (withoutFinalBreak query).count '-' := by
    rcases upTo with same | broken
    · rw [← same]
    · rw [broken]
      simp [withoutFinalBreak_append]
  have noHyphen : isDecimalDigit '-' = false := by decide
  simp only [PartialDate.ofText?] at read
  split at read
  · -- only one hyphen is typed
    rename_i year month cut
    obtain ⟨rows, -⟩ := Option.ite_none_right_eq_some.mp read
    rw [Bool.and_eq_true, isDigitRow_iff, isDigitRow_iff] at rows
    rw [hyphens, ← joined, cut] at counted
    simp [joinFields, List.count_eq_zero.mpr (rows.1.notMem noHyphen),
      List.count_eq_zero.mpr (rows.2.notMem noHyphen)] at counted
  · rename_i year month day cut
    obtain ⟨rows, isDate⟩ := Option.ite_none_right_eq_some.mp read
    obtain rfl := Option.some.inj isDate
    rw [Bool.and_eq_true, Bool.and_eq_true, isDigitRow_iff, isDigitRow_iff, isDigitRow_iff] at rows
    rw [← joined, cut] at upTo
    exact ⟨rows.1.1, rows.1.2, rows.2, upTo⟩
  · cases read

/-- The digits by which days are ranked are those that are typed of the day. -/
theorem dayDigits?_of_asksForDays (asks : AsksForDays kind query date) :
    dayDigits? query = some date.day := by
  obtain ⟨yearDigits, monthDigits, dayDigits, upTo⟩ :=
    exists_parts_of_ofText? asks.read asks.hyphens
  obtain ⟨tail, ends, written⟩ : ∃ tail, (tail = [] ∨ tail = ['\n']) ∧
      query = date.year ++ '-' :: (date.month ++ '-' :: (date.day ++ tail)) := by
    rcases upTo with rfl | rfl
    · exact ⟨[], .inl rfl, by simp⟩
    · exact ⟨['\n'], .inr rfl, by simp⟩
  have noHyphen : isDecimalDigit '-' = false := by decide
  have noDigit : tail.takeWhile isDecimalDigit = [] ∧ '-' ∉ tail ∧ atEnd tail = true := by
    rcases ends with rfl | rfl <;> decide
  have typed : (date.day ++ tail).takeWhile isDecimalDigit = date.day := by
    rw [List.takeWhile_append_of_pos dayDigits.2.2, noDigit.1, List.append_nil]
  have noHyphenBehind : '-' ∉ date.day ++ tail := by
    rw [List.mem_append, not_or]
    exact ⟨dayDigits.notMem noHyphen, noDigit.2.1⟩
  have here : dayDigitsAt? query = some date.day := by
    rw [dayDigitsAt?, written, fields_append_separator (yearDigits.notMem noHyphen),
      fields_append_separator (monthDigits.notMem noHyphen), fields_of_notMem noHyphenBehind]
    simp only [typed, isDigitRow_iff.mpr yearDigits, isDigitRow_iff.mpr monthDigits,
      List.drop_left, noDigit.2.2, Bool.and_self, if_true]
  cases query with
  | nil => cases here
  | cons c rest =>
      rw [dayDigits?, here]
      rfl

/-! ## One digit of the day -/

section OneDigit

variable (hyphenated : DateForm.IsHyphenated query year month [digit])
include hyphenated

theorem ofText?_of_hyphenated : PartialDate.ofText? query = some ⟨year, month, [digit]⟩ := by
  have noBreak : withoutFinalBreak query = query :=
    UpToBreak.withoutFinalBreak_eq (.inl rfl) hyphenated.unbroken
  have oneDigit : IsDigits 0 1 [digit] :=
    ⟨Nat.zero_le 1, Nat.le_refl 1, hyphenated.dayDigits.2.2⟩
  simp only [PartialDate.ofText?, noBreak, hyphenated.fields_eq,
    isDigitRow_iff.mpr hyphenated.yearDigits, isDigitRow_iff.mpr hyphenated.monthDigits,
    isDigitRow_iff.mpr oneDigit, Bool.and_self, if_true]

theorem count_hyphen_of_hyphenated : query.count '-' = 2 := by
  have noHyphen : isDecimalDigit '-' = false := by decide
  rw [hyphenated.parts]
  simp [List.count_eq_zero.mpr (hyphenated.yearDigits.notMem noHyphen),
    List.count_eq_zero.mpr (hyphenated.monthDigits.notMem noHyphen),
    List.count_eq_zero.mpr (hyphenated.dayDigits.notMem noHyphen)]

theorem asksForDays_of_hyphenated :
    AsksForDays (some .date) query ⟨year, month, [digit]⟩ :=
  ⟨rfl, count_hyphen_of_hyphenated hyphenated, ofText?_of_hyphenated hyphenated⟩

theorem not_all_isBlank_of_hyphenated : query.all isBlank = false := by
  rw [List.all_eq_false]
  exact ⟨'-', by simp [hyphenated.parts], by decide⟩

/-- A month that is typed in two digits is not filled up, so the query begins the days whose two
digits the typed digit begins. -/
theorem prefix_withDay_iff_of_hyphenated (monthWidth : month.length = 2) (day : List Char) :
    query <+: PartialDate.withDay ⟨year, month, [digit]⟩ day ↔ [digit] <+: day := by
  simp [hyphenated.parts, PartialDate.withDay, monthWidth, List.prefix_append_right_inj]

/-- Of the days that begin with what is typed, all are found, unless the digit that is typed of
them is a zero: then nothing is found. -/
theorem mem_rank_typed_day_iff (monthWidth : month.length = 2)
    (valid : PartialDate.isValid ⟨year, month, [digit]⟩ = true) :
    table (some .date) query = days ⟨year, month, [digit]⟩ ∧
    ∃ items, rank (some .date) query (table (some .date) query) = .ok items ∧
      (∀ item ∈ table (some .date) query, query <+: item.value.toList →
        (item ∈ items ↔ digit ≠ '0')) ∧
      (digit = '0' → items = []) := by
  have asks := asksForDays_of_hyphenated hyphenated
  have listed := table_of_asksForDays asks
  obtain ⟨items, ranked, found⟩ := exists_rank_days (some .date) valid
    (not_all_isBlank_of_hyphenated hyphenated) (dayDigits?_of_asksForDays asks)
    (List.cons_ne_nil digit [])
  rw [listed]
  refine ⟨rfl, items, ranked, fun item member begins => ?_, ?_⟩
  · rw [found item member]
    obtain ⟨day, positive, -, rfl⟩ := exists_eq_ofDay member
    rw [value_ofDay, prefix_withDay_iff_of_hyphenated hyphenated monthWidth] at begins
    rw [label_ofDay, prefix_toDigits_iff positive begins]
  · rintro rfl
    refine List.eq_nil_iff_forall_not_mem.mpr fun item isFound => ?_
    have member := mem_of_mem_rank ranked isFound
    have begins := (found item member).mp isFound
    obtain ⟨day, positive, -, rfl⟩ := exists_eq_ofDay member
    rw [label_ofDay] at begins
    exact not_zero_prefix_toDigits positive begins

end OneDigit

/-- The tens are found by their one. -/
theorem mem_rank_typed_day_ten :
    ∃ items, rank (some .date) "2024-02-1".toList (table (some .date) "2024-02-1".toList) =
        .ok items ∧
      ofDay ⟨"2024".toList, "02".toList, "1".toList⟩ 10 ∈ items := by
  have hyphenated : DateForm.IsHyphenated "2024-02-1".toList "2024".toList "02".toList
      ['1'] := ⟨by decide, by decide, by decide, by decide⟩
  obtain ⟨listed, items, ranked, found, -⟩ :=
    mem_rank_typed_day_iff hyphenated (by decide) (by decide)
  refine ⟨items, ranked, (found _ ?_ (by decide)).mpr (by decide)⟩
  rw [listed]
  decide +kernel

/-- The first of January begins with the zero that is typed of its day, and is not found. -/
theorem exists_day_not_ranked :
    ∃ item ∈ table (some .date) "2024-01-0".toList,
      "2024-01-0".toList <+: item.value.toList ∧
      rank (some .date) "2024-01-0".toList (table (some .date) "2024-01-0".toList) = .ok [] := by
  refine ⟨ofDay ⟨"2024".toList, "01".toList, "0".toList⟩ 1, ?_⟩
  decide +kernel

end Candidate

end InlineMarkers
