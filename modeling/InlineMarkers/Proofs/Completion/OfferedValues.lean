import InlineMarkers.Proofs.Completion.Transparency
import InlineMarkers.Proofs.Validation.DateLanguage
import InlineMarkers.Proofs.Value.Attempts

/-!
# What completion offers

Every completion stands in the table of its kind of marker, or it is a day of the
month that is typed.  The words of the tables are ones that the checks accept, at
most with a warning that they are long.  The days are days of the calendar, in
the year that is typed.  Only that year may be one that the settings do not
allow, since completion does not ask for the allowed years.
-/

namespace InlineMarkers

open Text Calendar

namespace Calendar.PartialDate

theorem digits_of_ofText? {typed : List Char} {date : PartialDate}
    (read : ofText? typed = some date) : IsDigits 4 4 date.year ∧ IsDigits 1 2 date.month := by
  simp only [ofText?] at read
  split at read
  · split at read
    · rename_i rows
      obtain rfl := Option.some.inj read
      rw [Bool.and_eq_true] at rows
      exact ⟨isDigitRow_iff.mp rows.1, isDigitRow_iff.mp rows.2⟩
    · cases read
  · split at read
    · rename_i rows
      obtain rfl := Option.some.inj read
      rw [Bool.and_eq_true, Bool.and_eq_true] at rows
      exact ⟨isDigitRow_iff.mp rows.1.1, isDigitRow_iff.mp rows.1.2⟩
    · cases read
  · cases read

theorem month_inside {date : PartialDate} (valid : date.isValid = true) :
    1 ≤ date.monthNumber ∧ date.monthNumber ≤ 12 := by
  simp only [isValid, Bool.and_eq_true, decide_eq_true_eq] at valid
  exact ⟨valid.1.2, valid.2⟩

/-- A day of the month in digits, behind the year as it was typed and the month in two digits. -/
def withDay (date : PartialDate) (day : List Char) : List Char :=
  let month := List.replicate (2 - date.month.length) '0' ++ date.month
  date.year ++ '-' :: (month ++ '-' :: day)

theorem isHyphenated_withDay {typed day : List Char} {date : PartialDate}
    (read : ofText? typed = some date) (dayDigits : IsDigits 1 2 day) :
    ∃ month, DateForm.IsHyphenated (date.withDay day) date.year month day ∧
      (digitsValue month : Int) = date.monthNumber := by
  obtain ⟨yearDigits, monthDigits⟩ := digits_of_ofText? read
  refine ⟨_, ⟨rfl, yearDigits, ⟨?_, ?_, ?_⟩, dayDigits⟩, ?_⟩
  · have := monthDigits.1
    simp
    omega
  · have := monthDigits.2.1
    simp
    omega
  · intro c member
    rcases List.mem_append.mp member with zero | typed
    · rw [List.eq_of_mem_replicate zero]
      decide
    · exact monthDigits.2.2 c typed
  · rw [digitsValue_zeros_append]
    rfl

end Calendar.PartialDate

namespace Candidate

variable {kind : Option MarkerKind} {query : List Char} {candidates items : List Candidate}
  {item : Candidate} {date : PartialDate}

theorem mem_byScore {scored : List (Nat × Candidate)} :
    item ∈ byScore scored ↔ ∃ score, 0 < score ∧ (score, item) ∈ scored := by
  simp only [byScore, List.mem_map, List.mem_mergeSort, List.mem_filter, decide_eq_true_eq]
  constructor
  · rintro ⟨⟨score, found⟩, ⟨isScored, positive⟩, rfl⟩
    exact ⟨score, positive, isScored⟩
  · rintro ⟨score, positive, isScored⟩
    exact ⟨(score, item), ⟨isScored, positive⟩, rfl⟩

theorem dayScore_of_mem_scored {digits : List Char} {scored : List (Nat × Candidate)} {score : Nat}
    (scoring : (candidates.mapM fun candidate =>
      (dayScore digits candidate).map (·, candidate)) = .ok scored)
    (member : (score, item) ∈ scored) :
    item ∈ candidates ∧ dayScore digits item = .ok score := by
  obtain ⟨candidate, among, isPair⟩ := exists_of_mem_mapM scoring member
  cases outcome : dayScore digits candidate with
  | error cause => simp [outcome, Except.map] at isPair
  | ok value =>
      simp only [outcome, Except.map, Except.ok.injEq, Prod.mk.injEq] at isPair
      obtain ⟨rfl, rfl⟩ := isPair
      exact ⟨among, outcome⟩

/-- Ranking leaves candidates out, and adds none. -/
theorem mem_of_mem_rank (ranked : rank kind query candidates = .ok items)
    (member : item ∈ items) : item ∈ candidates := by
  unfold rank at ranked
  split at ranked
  · rwa [Except.ok.inj ranked]
  split at ranked
  · split at ranked
    · rwa [Except.ok.inj ranked]
    · rwa [Except.ok.inj ranked]
    · rename_i digits _ _
      cases scoring : candidates.mapM fun candidate =>
        (dayScore digits candidate).map (·, candidate) with
      | error cause => simp [scoring, bind, Except.bind] at ranked
      | ok scored =>
          simp only [scoring, bind, Except.bind, pure, Except.pure, Except.ok.injEq] at ranked
          rw [← ranked] at member
          obtain ⟨score, -, isScored⟩ := mem_byScore.mp member
          exact (dayScore_of_mem_scored scoring isScored).1
  · rw [← Except.ok.inj ranked] at member
    obtain ⟨score, -, isScored⟩ := mem_byScore.mp member
    obtain ⟨candidate, among, isPair⟩ := List.mem_map.mp isScored
    rwa [← (Prod.mk.inj isPair).2]

/-! ## The days of a month -/

theorem exists_day_of_mem_days (member : item ∈ days date) :
    date.isValid = true ∧ ∃ day : Nat, 1 ≤ day ∧
      (day : Int) ≤ daysInMonth date.monthNumber date.yearNumber ∧ item = ofDay date day := by
  obtain ⟨index, inRange, rfl⟩ := List.mem_map.mp member
  rw [List.mem_range, PartialDate.days] at inRange
  split at inRange
  · rename_i valid
    exact ⟨valid, index + 1, by omega, by omega, rfl⟩
  · exact absurd inRange (by simp)

theorem value_ofDay (date : PartialDate) (day : Nat) :
    (ofDay date day).value.toList = date.withDay (padded 2 day) := by
  simp [ofDay, PartialDate.withDay]

/-- The days of a month are days of the calendar, in the year that was typed. -/
theorem isDay_of_mem_days (read : PartialDate.ofText? query = some date)
    (member : item ∈ days date) :
    ∃ month day, DateForm.IsHyphenated item.value.toList date.year month day ∧
      IsDay date.yearNumber (digitsValue month) (digitsValue day) := by
  obtain ⟨valid, day, first, last, rfl⟩ := exists_day_of_mem_days member
  have longest := daysInMonth_le_thirtyOne date.monthNumber date.yearNumber
  obtain ⟨month, hyphenated, monthEq⟩ :=
    PartialDate.isHyphenated_withDay read (isDigits_padded_two (n := day) (by omega))
  rw [← value_ofDay] at hyphenated
  have inYear := PartialDate.month_inside valid
  refine ⟨month, padded 2 day, hyphenated, ?_⟩
  rw [isDay_iff, monthEq, digitsValue_padded]
  omega

/-- What is put into a marker that is no tag is the candidate's value. -/
theorem applyText_of_ne {kind : MarkerKind} (other : kind ≠ .tag) (value : List Char) :
    applyText (some kind) value = value := by
  rw [applyText, if_neg]
  rintro ⟨isTag, -⟩
  exact other (Option.some.inj isTag)

/-- A date is typed up to its month, or up to the first digit of its day. -/
structure AsksForDays (kind : Option MarkerKind) (query : List Char) (date : PartialDate) :
    Prop where
  isDate : kind = some .date
  hyphens : query.count '-' = 2
  read : PartialDate.ofText? query = some date

theorem table_of_asksForDays (asks : AsksForDays kind query date) :
    table kind query = days date := by
  rw [table, if_pos ⟨asks.isDate, asks.hyphens⟩, asks.read]

theorem table_cases (member : item ∈ table kind query) :
    (item ∈ ofKind? kind ∧ ∀ date, ¬AsksForDays kind query date) ∨
      ∃ date, AsksForDays kind query date ∧ item ∈ days date := by
  unfold table at member
  split at member
  · rename_i asked
    split at member
    · rename_i date read
      exact .inr ⟨date, ⟨asked.1, asked.2, read⟩, member⟩
    · rename_i unread
      refine .inl ⟨member, fun date asks => ?_⟩
      rw [asks.read] at unread
      cases unread
  · rename_i other
    exact .inl ⟨member, fun date asks => other ⟨asks.isDate, asks.hyphens⟩⟩

end Candidate

namespace CompletionSource

variable {source : CompletionSource} {result : CompletionResult} {item : Candidate}

/-- As many candidates as a completion shows. -/
def room (config : MarkerConfig) (limit : Option Int) : Nat :=
  max 1 ((limit.map Int.toNat).getD config.popupLimit)

/-- What a completion answers, whatever is remembered: the first of the ranked candidates for
what is typed, arranged by category. -/
theorem complete_eq_some_iff (faithful : source.cache.Faithful) {text : List Char}
    {cursor limit : Option Int} :
    (source.complete text cursor limit).1 = some result ↔
      ∃ context items, CompletionContext.detect text cursor = some context ∧
        rankedFor context = .ok items ∧ items ≠ [] ∧
        result = ⟨context.kind, context.query, context.anchorStart, context.anchorStop,
          Candidate.groupByCategory (some context.kind)
            (items.take (room source.config limit))⟩ := by
  unfold complete
  cases detected : CompletionContext.detect text cursor with
  | none => simp
  | some context =>
      have outcome := (ranked_of_faithful faithful context).1
      simp only [Option.some.injEq, exists_and_left, exists_eq_left']
      split
      · rename_i isRanked
        rw [isRanked] at outcome
        simp [← outcome]
      · rename_i isRanked
        rw [isRanked] at outcome
        simp [← outcome]
      · rename_i items _ filled isRanked
        rw [isRanked] at outcome
        have notEmpty : items ≠ [] := filled
        simp [← outcome, notEmpty, room, eq_comm]

theorem mem_table_of_complete (faithful : source.cache.Faithful) {text : List Char}
    {cursor limit : Option Int} (offered : (source.complete text cursor limit).1 = some result)
    (among : item ∈ result.items) :
    item ∈ Candidate.table (some result.kind) result.query := by
  obtain ⟨context, items, -, ranked, -, rfl⟩ := (complete_eq_some_iff faithful).mp offered
  rw [Candidate.groupByCategory, List.mem_mergeSort] at among
  exact Candidate.mem_of_mem_rank ranked (List.mem_of_mem_take among)

/-- What is offered stands among the candidates for what is typed, whatever is remembered. -/
theorem mem_table_of_completeValue (faithful : source.cache.Faithful) {text cursor limit : Value}
    (offered : (source.completeValue text cursor limit).1 = some result)
    (among : item ∈ result.items) :
    item ∈ Candidate.table (some result.kind) result.query := by
  unfold completeValue at offered
  split at offered
  · exact mem_table_of_complete faithful offered among
  · simp at offered

end CompletionSource

namespace Validation

variable {config : MarkerConfig} {today : Date} {value query : List Char} {item : Candidate}
  {kind : MarkerKind}

/-- The check of a value has an outcome, which is not an error. -/
def Accepts (config : MarkerConfig) (today : Date) (kind : MarkerKind) (value : List Char)
    (start : Nat) : Prop :=
  ∃ found, checkValue config today kind value start = .ok found ∧
    ∀ diagnostic ∈ found, diagnostic.severity ≠ .error

theorem accepts_of_none {start : Nat}
    (silent : checkValue config today kind value start = .ok none) :
    Accepts config today kind value start :=
  ⟨none, silent, by simp⟩

/-! ## The words of the tables -/

/-- A tag that says something is at most warned of. -/
theorem severity_of_checkTag {start : Nat} {diagnostic : Diagnostic}
    (said : (trim value).isEmpty = false) (found : checkTag config value start = some diagnostic) :
    diagnostic.severity = .warning := by
  rw [checkTag, said] at found
  split at found
  · cases found
  split at found
  · contradiction
  split at found
  · rw [← Option.some.inj found]
    rfl
  split at found
  · rw [← Option.some.inj found]
    rfl
  · cases found

theorem severity_of_checkAssignee {start : Nat} {diagnostic : Diagnostic}
    (isName : isUserName value = true)
    (found : checkAssignee config value start = some diagnostic) :
    diagnostic.severity = .warning := by
  rw [checkAssignee, isName] at found
  split at found
  · cases found
  split at found
  · cases found
  split at found
  · contradiction
  split at found
  · rw [← Option.some.inj found]
    rfl
  · cases found

theorem accepts_of_warning {start : Nat} {found : Option Diagnostic}
    (checked : checkValue config today kind value start = .ok found)
    (warns : ∀ diagnostic ∈ found, diagnostic.severity = .warning) :
    Accepts config today kind value start := by
  refine ⟨found, checked, fun diagnostic isFound => ?_⟩
  rw [warns diagnostic isFound]
  decide

theorem accepts_keyword (keyword : isDateKeyword value = true) (start : Nat) :
    Accepts config today .date value start :=
  accepts_of_none (checkDate_keyword keyword start)

theorem accepts_of_mem_ofKind (member : item ∈ Candidate.ofKind kind) (start : Nat) :
    Accepts config today kind (Candidate.applyText (some kind) item.value.toList) start := by
  cases kind with
  | tag =>
      have said : ∀ item ∈ Candidate.tags,
          (trim (Candidate.applyText (some .tag) item.value.toList)).isEmpty = false := by
        decide +kernel
      exact accepts_of_warning rfl fun _ => severity_of_checkTag (said item member)
  | color =>
      have colors : ∀ item ∈ Candidate.colors, isHexColor item.value.toList = true := by
        decide +kernel
      rw [Candidate.applyText_of_ne (by decide)]
      refine accepts_of_none ?_
      rw [checkValue, checkColor, colors item member, Bool.or_true, if_pos rfl]
  | priority =>
      have words : ∀ item ∈ Candidate.priorities,
          isPriorityWord (lower item.value.toList) = true := by
        decide +kernel
      rw [Candidate.applyText_of_ne (by decide)]
      refine accepts_of_none ?_
      simp only [checkValue, checkPriority, words item member, Bool.or_true, if_true]
  | date =>
      have keywords : ∀ item ∈ Candidate.dates, isDateKeyword item.value.toList = true := by
        decide +kernel
      rw [Candidate.applyText_of_ne (by decide)]
      exact accepts_keyword (keywords item member) start
  | assignee =>
      have names : ∀ item ∈ Candidate.assignees, isUserName item.value.toList = true := by
        decide +kernel
      rw [Candidate.applyText_of_ne (by decide)]
      exact accepts_of_warning rfl fun _ => severity_of_checkAssignee (names item member)

/-! ## What the checks say of a day -/

/-- The year of a day that is offered is the only thing that may be wrong with it. -/
theorem checkValue_of_mem_days {date : PartialDate} (read : PartialDate.ofText? query = some date)
    (member : item ∈ Candidate.days date) (start : Nat) :
    ∃ found, checkValue config today .date item.value.toList start = .ok found ∧
      ((∃ diagnostic ∈ found, diagnostic.severity = .error) ↔
        ¬(config.firstYear ≤ date.yearNumber ∧ date.yearNumber ≤ config.lastYear)) ∧
      ∀ diagnostic ∈ found, diagnostic.code = some .dateYearRange := by
  obtain ⟨month, day, hyphenated, isDay⟩ := Candidate.isDay_of_mem_days read member
  refine ⟨_, checkDate_of_hyphenated hyphenated start, ?_⟩
  by_cases allowed : config.firstYear ≤ date.yearNumber ∧ date.yearNumber ≤ config.lastYear
  · have silent : checkIso config today item.value.toList start (digitsValue date.year)
        (digitsValue month) (digitsValue day) = none :=
      checkIso_eq_none_iff.mpr ⟨isDay, allowed⟩
    rw [silent]
    exact ⟨iff_of_false (by simp) (not_not_intro allowed), by simp⟩
  · have outside : checkIso config today item.value.toList start (digitsValue date.year)
        (digitsValue month) (digitsValue day) =
          some (yearRange config today item.value.toList start (digitsValue date.year)
            (digitsValue month) (digitsValue day)) := by
      rw [PartialDate.yearNumber] at allowed
      rw [checkIso, if_pos (by omega)]
    rw [outside]
    refine ⟨iff_of_true ⟨_, rfl, rfl⟩ allowed, fun diagnostic found => ?_⟩
    obtain rfl := Option.some.inj found
    rfl

/-- The days are asked for of a month in a year that the settings do not allow. -/
def AsksOutsideYears (config : MarkerConfig) (kind : MarkerKind) (query : List Char) : Prop :=
  ∃ date, Candidate.AsksForDays (some kind) query date ∧
    ¬(config.firstYear ≤ date.yearNumber ∧ date.yearNumber ≤ config.lastYear)

theorem checkValue_of_mem_table (member : item ∈ Candidate.table (some kind) query) (start : Nat) :
    ∃ found,
      checkValue config today kind (Candidate.applyText (some kind) item.value.toList) start =
        .ok found ∧
      ((∃ diagnostic ∈ found, diagnostic.severity = .error) ↔
        AsksOutsideYears config kind query) ∧
      ∀ diagnostic ∈ found, diagnostic.severity = .error →
        diagnostic.code = some .dateYearRange := by
  rcases Candidate.table_cases member with ⟨inTable, noDays⟩ | ⟨date, asks, inDays⟩
  · obtain ⟨found, checked, accepted⟩ := accepts_of_mem_ofKind inTable start
    refine ⟨found, checked, iff_of_false ?_ ?_, ?_⟩
    · rintro ⟨diagnostic, isFound, isError⟩
      exact accepted diagnostic isFound isError
    · rintro ⟨date, asks, -⟩
      exact noDays date asks
    · exact fun diagnostic isFound isError => absurd isError (accepted diagnostic isFound)
  · obtain rfl : kind = .date := Option.some.inj asks.isDate
    obtain ⟨found, checked, error_iff, code⟩ := checkValue_of_mem_days asks.read inDays start
    rw [Candidate.applyText_of_ne (by decide)]
    refine ⟨found, checked, error_iff.trans ⟨fun outside => ⟨date, asks, outside⟩, ?_⟩,
      fun diagnostic isFound _ => code diagnostic isFound⟩
    rintro ⟨other, asksOther, outside⟩
    obtain rfl : other = date := Option.some.inj (asksOther.read.symm.trans asks.read)
    exact outside

/-- What completion offers is no error, whatever the source was used for before and whatever
the settings are, unless it is a day of a year that the settings do not allow. -/
theorem checkValue_offered (settings config : MarkerConfig) (today : Date)
    (actions : List CompletionAction) (text cursor limit : Value) (start : Nat)
    {result : CompletionResult} {item : Candidate}
    (offered : (((CompletionSource.ofConfig settings).run actions).completeValue
      text cursor limit).1 = some result)
    (among : item ∈ result.items) :
    ∃ found, checkValue config today result.kind (result.applyText item) start = .ok found ∧
      ((∃ diagnostic ∈ found, diagnostic.severity = .error) ↔
        AsksOutsideYears config result.kind result.query) ∧
      ∀ diagnostic ∈ found, diagnostic.severity = .error →
        diagnostic.code = some .dateYearRange := by
  have nothing : (CompletionSource.ofConfig settings).cache.Faithful :=
    CompletionCache.faithful_of_nil rfl
  obtain ⟨faithful, -⟩ := CompletionSource.run_keeps nothing actions
  exact checkValue_of_mem_table
    (CompletionSource.mem_table_of_completeValue faithful offered among) start

/-- The first day of a February, offered by a source that remembers the month. -/
theorem checkValue_offered_february :
    ∃ result item found,
      (((CompletionSource.ofConfig .standard).run [.complete (.text "@2024-02-") .null .null])
        |>.completeValue (.text "@2024-02-") .null (.int 1)).1 = some result ∧
      item ∈ result.items ∧ result.applyText item = "2024-02-01".toList ∧
      checkValue .standard newYear result.kind (result.applyText item) 1 = .ok found ∧
      ∀ diagnostic ∈ found, diagnostic.severity ≠ .error := by
  let firstDay := Candidate.ofDay ⟨"2024".toList, "02".toList, []⟩ 1
  have seen : (((CompletionSource.ofConfig .standard).run
      [.complete (.text "@2024-02-") .null .null]) |>.completeValue (.text "@2024-02-") .null
        (.int 1)).1.map (fun result => (result.kind, result.query, result.items)) =
      some (.date, "2024-02-".toList, [firstDay]) := by
    decide +kernel
  obtain ⟨⟨kind, query, start, stop, items⟩, offered, isResult⟩ := Option.map_eq_some_iff.mp seen
  simp only [Prod.mk.injEq] at isResult
  obtain ⟨rfl, rfl, rfl⟩ := isResult
  have applied : Candidate.applyText (some .date) firstDay.value.toList = "2024-02-01".toList := by
    decide
  obtain ⟨found, checked, error_iff, -⟩ :=
    checkValue_offered .standard .standard newYear _ _ _ _ 1 offered List.mem_cons_self
  refine ⟨_, firstDay, found, offered, List.mem_cons_self, applied, checked,
    fun diagnostic isFound isError => ?_⟩
  obtain ⟨date, asks, outside⟩ := error_iff.mp ⟨diagnostic, isFound, isError⟩
  have read : PartialDate.ofText? "2024-02-".toList = some ⟨"2024".toList, "02".toList, []⟩ := by
    decide
  obtain rfl := Option.some.inj (read.symm.trans asks.read)
  exact outside (by decide)

/-- The days of a month of 1800 are offered, and the first of them is an error. -/
theorem exists_offered_error :
    ∃ result item diagnostic,
      ((CompletionSource.ofConfig .standard).completeValue (.text "@1800-05-") .null
        (.int 1)).1 = some result ∧
      item ∈ result.items ∧ result.applyText item = "1800-05-01".toList ∧
      checkValue .standard newYear result.kind (result.applyText item) 1 =
        .ok (some diagnostic) ∧ diagnostic.severity = .error := by
  let firstDay := Candidate.ofDay ⟨"1800".toList, "05".toList, []⟩ 1
  have seen : ((CompletionSource.ofConfig .standard).completeValue (.text "@1800-05-") .null
      (.int 1)).1.map (fun result => (result.kind, result.items)) = some (.date, [firstDay]) := by
    decide +kernel
  obtain ⟨⟨kind, query, start, stop, items⟩, offered, isResult⟩ := Option.map_eq_some_iff.mp seen
  simp only [Prod.mk.injEq] at isResult
  obtain ⟨rfl, rfl⟩ := isResult
  have applied : Candidate.applyText (some .date) firstDay.value.toList = "1800-05-01".toList := by
    decide
  have checked : checkValue .standard newYear .date
      (Candidate.applyText (some .date) firstDay.value.toList) 1 =
        .ok (some (yearRange .standard newYear "1800-05-01".toList 1 1800 5 1)) := by
    rw [applied]
    rfl
  exact ⟨_, firstDay, _, offered, List.mem_cons_self, applied, checked, rfl⟩

end Validation

end InlineMarkers
