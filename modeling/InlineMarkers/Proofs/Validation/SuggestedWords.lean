import InlineMarkers.Proofs.Validation.LocalFix
import InlineMarkers.Proofs.Validation.NotePasses
import InlineMarkers.Proofs.Validation.WholeWords

/-!
# The words that are suggested

A word stands free when it stands whole and shares no character with a marker.
Of the free tag words of one lower case the first is suggested, unless a tag or
a priority says it already; of the free day words the first is suggested, unless
the note has a date.  So a suggestion keeps clear of the markers and of what is
reported in them, and two suggestions keep clear of each other.
-/

namespace InlineMarkers.Validation

open Text Tokenizer Calendar

variable {config : MarkerConfig} {today : Date} {faults : Faults} {words : List String}
  {text key : List Char} {markers : List Marker} {marker : Marker} {word other : Found}
  {diagnostic : Diagnostic}

/-- A word stands whole in a text, outside of every marker. -/
structure StandsFree (words : List String) (text : List Char) (markers : List Marker)
    (word : Found) : Prop where
  whole : StandsWhole words text word
  outside : ∀ marker ∈ markers,
    word.stop ≤ marker.markerStart ∨ marker.markerStop ≤ word.position

/-- A tag or a priority of a note says a word, apart from case and blanks around it. -/
def IsMarked (markers : List Marker) (key : List Char) : Prop :=
  ∃ marker ∈ markers, (marker.kind = .tag ∨ marker.kind = .priority) ∧
    lower (trim marker.value) = key

/-- The first free tag word of its lower case. -/
def IsFirstTagWord (text : List Char) (markers : List Marker) (word : Found) : Prop :=
  Found.IsFirst (fun other => StandsFree tagWords text markers other ∧
    lower other.text = lower word.text) word

/-- The first free day word. -/
def IsFirstDayWord (text : List Char) (markers : List Marker) (word : Found) : Prop :=
  Found.IsFirst (StandsFree dayWords text markers) word

theorem mem_markedWords_iff : key ∈ markedWords markers ↔ IsMarked markers key := by
  simp only [markedWords, List.mem_map, List.mem_filter, Bool.or_eq_true, beq_iff_eq, and_assoc,
    IsMarked]

theorem insideAnySpan_eq_false_iff :
    insideAnySpan word.position word.stop (Marker.spans markers) = false ↔
      ∀ marker ∈ markers, word.stop ≤ marker.markerStart ∨ marker.markerStop ≤ word.position := by
  rw [insideAnySpan, Marker.spans, List.any_map, List.any_eq_false]
  refine forall₂_congr fun marker _ => ?_
  rw [Function.comp_apply, Marker.span, overlapsSpan, Bool.and_eq_true, decide_eq_true_iff,
    decide_eq_true_iff]
  omega

theorem standsFree_iff (lowerCase : AreLowerCase words) :
    StandsFree words text markers word ↔ word ∈ (wholeWord words).all text ∧
      insideAnySpan word.position word.stop (Marker.spans markers) = false := by
  rw [mem_all_wholeWord_iff lowerCase, insideAnySpan_eq_false_iff]
  exact ⟨fun free => ⟨free.whole, free.outside⟩, fun ⟨whole, outside⟩ => ⟨whole, outside⟩⟩

/-- The search comes to the first free word of some sort when all words of the sort that it met
before are in markers. -/
theorem isFirst_free_iff_cut (lowerCase : AreLowerCase words) (wanted : Found → Prop) :
    Found.IsFirst (fun other => StandsFree words text markers other ∧ wanted other) word ↔
      (insideAnySpan word.position word.stop (Marker.spans markers) = false ∧ wanted word) ∧
        ∃ front back, (wholeWord words).all text = front ++ word :: back ∧
          ∀ earlier ∈ front, wanted earlier →
            insideAnySpan earlier.position earlier.stop (Marker.spans markers) = true := by
  have free : (fun other => StandsFree words text markers other ∧ wanted other) = fun other =>
      other ∈ (wholeWord words).all text ∧
        insideAnySpan other.position other.stop (Marker.spans markers) = false ∧ wanted other := by
    funext other
    rw [standsFree_iff lowerCase, and_assoc]
  rw [free, Found.isFirst_iff_cut (Pattern.pairwise_all _ text)]
  simp only [not_and', Bool.not_eq_false]

/-! ## What is suggested -/

theorem mem_tagSuggestions_iff :
    diagnostic ∈ tagSuggestions text markers ↔
      ∃ word, IsFirstTagWord text markers word ∧ ¬IsMarked markers (lower word.text) ∧
        suggestTag word = diagnostic := by
  rw [tagSuggestions, mem_suggestTags_iff]
  constructor
  · rintro ⟨front, word, back, parts, unmarked, outside, covered, suggested⟩
    rw [mem_markedWords_iff] at unmarked
    exact ⟨word, (isFirst_free_iff_cut areLowerCase_tagWords _).mpr
      ⟨⟨outside, rfl⟩, front, back, parts, covered⟩, unmarked, suggested⟩
  · rintro ⟨word, isFirst, unmarked, suggested⟩
    rw [← mem_markedWords_iff] at unmarked
    obtain ⟨⟨outside, -⟩, front, back, parts, covered⟩ :=
      (isFirst_free_iff_cut areLowerCase_tagWords _).mp isFirst
    exact ⟨front, word, back, parts, unmarked, outside, covered, suggested⟩

theorem find?_dayWord_eq_some_iff :
    (((wholeWord dayWords).all text).find? fun word =>
      !insideAnySpan word.position word.stop (Marker.spans markers)) = some word ↔
      IsFirstDayWord text markers word := by
  have free : StandsFree dayWords text markers =
      fun other => StandsFree dayWords text markers other ∧ True := by
    simp only [and_true]
  rw [IsFirstDayWord, free, isFirst_free_iff_cut areLowerCase_dayWords,
    List.find?_eq_some_iff_append]
  simp only [and_true, true_implies, Bool.not_eq_true', Bool.not_not]

theorem mem_dateSuggestion?_iff :
    diagnostic ∈ dateSuggestion? text markers ↔
      ∃ word, IsFirstDayWord text markers word ∧ (∀ marker ∈ markers, marker.kind ≠ .date) ∧
        suggestDate word = diagnostic := by
  rw [dateSuggestion?]
  split
  · rename_i hasDate
    obtain ⟨marker, member, isDate⟩ := List.any_eq_true.mp hasDate
    refine iff_of_false (Option.not_mem_none _) ?_
    rintro ⟨-, -, noDate, -⟩
    exact noDate marker member (eq_of_beq isDate)
  · rename_i noDate
    have noDate : ∀ marker ∈ markers, marker.kind ≠ .date := by
      simpa using noDate
    simp only [Option.mem_def, Option.map_eq_some_iff, find?_dayWord_eq_some_iff]
    exact exists_congr fun word => and_congr_right fun _ => (and_iff_right noDate).symm

theorem findSuggestions_of_enabled (enabled : config.suggestionsEnabled = true) :
    findSuggestions config text markers =
      tagSuggestions text markers ++ (dateSuggestion? text markers).toList := by
  rw [findSuggestions]
  split
  · rename_i nothing
    obtain rfl : text = [] := by simpa [enabled] using nothing
    simp [tagSuggestions, dateSuggestion?, Pattern.all_nil, suggestTags]
  · rfl

theorem mem_findSuggestions_iff (enabled : config.suggestionsEnabled = true) :
    diagnostic ∈ findSuggestions config text markers ↔
      (∃ word, IsFirstTagWord text markers word ∧ ¬IsMarked markers (lower word.text) ∧
        suggestTag word = diagnostic) ∨
      ∃ word, IsFirstDayWord text markers word ∧ (∀ marker ∈ markers, marker.kind ≠ .date) ∧
        suggestDate word = diagnostic := by
  rw [findSuggestions_of_enabled enabled, List.mem_append, Option.mem_toList,
    ← Option.mem_def, mem_tagSuggestions_iff, mem_dateSuggestion?_iff]

/-! ## One suggestion for a word -/

/-- Only one word is the first of its lower case. -/
theorem IsFirstTagWord.eq_of_lower (first : IsFirstTagWord text markers word)
    (firstOther : IsFirstTagWord text markers other)
    (sameWord : lower word.text = lower other.text) : word = other := by
  have ahead := first.first other ⟨firstOther.isWanted.1, sameWord.symm⟩
  have behind := firstOther.first word ⟨first.isWanted.1, sameWord⟩
  exact first.isWanted.1.whole.eq_of_position areLowerCase_tagWords
    firstOther.isWanted.1.whole areLowerCase_tagWords (Nat.le_antisymm ahead behind)

theorem IsFirstDayWord.eq (first : IsFirstDayWord text markers word)
    (firstOther : IsFirstDayWord text markers other) : word = other :=
  first.isWanted.whole.eq_of_position areLowerCase_dayWords firstOther.isWanted.whole
    areLowerCase_dayWords
    (Nat.le_antisymm (first.first other firstOther.isWanted) (firstOther.first word first.isWanted))

theorem exists_isFirstTagWord (free : StandsFree tagWords text markers word) :
    ∃ first, IsFirstTagWord text markers first ∧ lower first.text = lower word.text := by
  obtain ⟨first, isFirst⟩ := Found.exists_isFirst (fun other =>
    StandsFree tagWords text markers other ∧ lower other.text = lower word.text) ⟨free, rfl⟩
  refine ⟨first, ?_, isFirst.isWanted.2⟩
  rwa [IsFirstTagWord, isFirst.isWanted.2]

/-! ## Where the suggestions stand -/

/-- The range of a diagnostic and the one from `start` to `stop` share no character. -/
def KeepsClear (diagnostic : Diagnostic) (start stop : Int) : Prop :=
  diagnostic.stop ≤ start ∨ stop ≤ diagnostic.start

theorem range_suggestTag (word : Found) :
    (suggestTag word).start = word.position ∧ (suggestTag word).stop = word.stop := by
  simp [suggestTag, Found.stop]

theorem range_suggestDate (word : Found) :
    (suggestDate word).start = word.position ∧ (suggestDate word).stop = word.stop := by
  simp [suggestDate, Found.stop]

theorem exists_free_of_mem_findSuggestions (enabled : config.suggestionsEnabled = true)
    (member : diagnostic ∈ findSuggestions config text markers) :
    ∃ words word, StandsFree words text markers word ∧
      diagnostic.start = word.position ∧ diagnostic.stop = word.stop := by
  rcases (mem_findSuggestions_iff enabled).mp member with
    ⟨word, isFirst, -, rfl⟩ | ⟨word, isFirst, -, rfl⟩
  · exact ⟨tagWords, word, isFirst.isWanted.1, range_suggestTag word⟩
  · exact ⟨dayWords, word, isFirst.isWanted, range_suggestDate word⟩

theorem keepsClear_of_marker (enabled : config.suggestionsEnabled = true)
    (suggested : diagnostic ∈ findSuggestions config text markers) (member : marker ∈ markers) :
    KeepsClear diagnostic marker.markerStart marker.markerStop := by
  obtain ⟨words, word, free, start, stop⟩ := exists_free_of_mem_findSuggestions enabled suggested
  have outside := free.outside marker member
  rw [KeepsClear, start, stop]
  omega

theorem suggestTags_eq_map (spans : List (Nat × Nat)) (known : List (List Char))
    (found : List Found) :
    ∃ chosen : List Found, chosen.Sublist found ∧
      suggestTags spans known found = chosen.map suggestTag := by
  fun_induction suggestTags spans known found with
  | case1 known => exact ⟨[], .slnil, rfl⟩
  | case2 known word rest passed ih =>
      obtain ⟨chosen, sublist, parts⟩ := ih
      exact ⟨chosen, sublist.cons word, parts⟩
  | case3 known word rest passed ih =>
      obtain ⟨chosen, sublist, parts⟩ := ih
      exact ⟨word :: chosen, sublist.cons_cons word, congrArg (suggestTag word :: ·) parts⟩

/-- The suggested words stand one behind another, the day word apart. -/
theorem pairwise_findSuggestions (enabled : config.suggestionsEnabled = true) :
    (findSuggestions config text markers).Pairwise fun first second =>
      KeepsClear first second.start second.stop := by
  rw [findSuggestions_of_enabled enabled, List.pairwise_append]
  refine ⟨?_, ?_, ?_⟩
  · obtain ⟨chosen, sublist, parts⟩ := suggestTags_eq_map (Marker.spans markers)
      (markedWords markers) ((wholeWord tagWords).all text)
    rw [tagSuggestions, parts, List.pairwise_map]
    refine ((Pattern.pairwise_all _ text).sublist sublist).imp_of_mem ?_
    intro first second isFirst isSecond before
    have whole := (mem_all_wholeWord_iff areLowerCase_tagWords).mp (sublist.subset isFirst)
    have wholeNext := (mem_all_wholeWord_iff areLowerCase_tagWords).mp (sublist.subset isSecond)
    have apart := whole.stop_le areLowerCase_tagWords wholeNext before
    rw [KeepsClear, (range_suggestTag first).2, (range_suggestTag second).1]
    omega
  · cases dateSuggestion? text markers with
    | none => exact .nil
    | some suggestion => exact List.pairwise_singleton _ _
  · intro tag suggestsTag date suggestsDate
    obtain ⟨word, isTag, -, rfl⟩ := mem_tagSuggestions_iff.mp suggestsTag
    obtain ⟨day, isDay, -, rfl⟩ := mem_dateSuggestion?_iff.mp (Option.mem_toList.mp suggestsDate)
    have whole := isTag.isWanted.1.whole
    have wholeDay := isDay.isWanted.whole
    rw [KeepsClear, (range_suggestTag word).1, (range_suggestTag word).2,
      (range_suggestDate day).1, (range_suggestDate day).2]
    rcases whole.eq_or_apart areLowerCase_tagWords wholeDay areLowerCase_dayWords with
      rfl | apart
    · exact absurd wholeDay.spelling (not_spells_dayWords whole.spelling)
    · omega

theorem nodup_findSuggestions (enabled : config.suggestionsEnabled = true) :
    (findSuggestions config text markers).Nodup := by
  refine (pairwise_findSuggestions enabled).imp_of_mem ?_
  rintro first second isFirst - clear rfl
  have fits := Diagnostic.fits_iff.mp (fits_of_mem_findSuggestions isFirst)
  rw [KeepsClear] at clear
  omega

/-- A diagnostic proposes to put a word in brackets. -/
def MakesTag (key : List Char) (diagnostic : Diagnostic) : Prop :=
  diagnostic.code = some .tagSuggestion ∧ diagnostic.suggestion = some ('[' :: (key ++ [']']))

instance (key : List Char) : DecidablePred (MakesTag key) := fun _ =>
  inferInstanceAs (Decidable (_ ∧ _))

theorem filter_eq_singleton {α : Type} {items : List α} {keep : α → Bool} {kept : α}
    (nodup : items.Nodup) (only : ∀ item, item ∈ items ∧ keep item = true ↔ item = kept) :
    items.filter keep = [kept] := by
  rw [← List.perm_singleton]
  refine (List.perm_ext_iff_of_nodup (nodup.filter keep) (List.nodup_singleton kept)).mpr ?_
  intro item
  rw [List.mem_filter, only, List.mem_singleton]

theorem makesTag_suggestTag_iff : MakesTag key (suggestTag word) ↔ lower word.text = key := by
  simp [MakesTag, suggestTag, Diagnostic.ofValue]

theorem mem_and_makesTag_iff (enabled : config.suggestionsEnabled = true) :
    diagnostic ∈ findSuggestions config text markers ∧ MakesTag key diagnostic ↔
      ∃ word, IsFirstTagWord text markers word ∧ ¬IsMarked markers key ∧ lower word.text = key ∧
        suggestTag word = diagnostic := by
  rw [mem_findSuggestions_iff enabled]
  constructor
  · rintro ⟨⟨word, isFirst, unmarked, rfl⟩ | ⟨word, -, -, rfl⟩, makesTag⟩
    · obtain rfl := makesTag_suggestTag_iff.mp makesTag
      exact ⟨word, isFirst, unmarked, rfl, rfl⟩
    · simp [MakesTag, suggestDate, Diagnostic.ofValue] at makesTag
  · rintro ⟨word, isFirst, unmarked, rfl, rfl⟩
    exact ⟨.inl ⟨word, isFirst, unmarked, rfl⟩, makesTag_suggestTag_iff.mpr rfl⟩

theorem mem_and_datePattern_iff (enabled : config.suggestionsEnabled = true) :
    diagnostic ∈ findSuggestions config text markers ∧
        diagnostic.code = some .datePatternSuggestion ↔
      ∃ word, IsFirstDayWord text markers word ∧ (∀ marker ∈ markers, marker.kind ≠ .date) ∧
        suggestDate word = diagnostic := by
  rw [mem_findSuggestions_iff enabled]
  constructor
  · rintro ⟨⟨word, -, -, rfl⟩ | suggestsDate, isDate⟩
    · simp [suggestTag, Diagnostic.ofValue] at isDate
    · exact suggestsDate
  · rintro ⟨word, isFirst, noDate, rfl⟩
    exact ⟨.inr ⟨word, isFirst, noDate, rfl⟩, rfl⟩

/-- A free tag word that no marker says is suggested once, where its lower case first stands
free. -/
theorem filter_makesTag_of_free (enabled : config.suggestionsEnabled = true)
    (free : StandsFree tagWords text markers word)
    (unmarked : ¬IsMarked markers (lower word.text)) :
    ∃ first, IsFirstTagWord text markers first ∧ lower first.text = lower word.text ∧
      (findSuggestions config text markers).filter (MakesTag (lower word.text)) =
        [suggestTag first] := by
  obtain ⟨first, isFirst, sameWord⟩ := exists_isFirstTagWord free
  refine ⟨first, isFirst, sameWord, ?_⟩
  refine filter_eq_singleton (nodup_findSuggestions enabled) fun diagnostic => ?_
  rw [decide_eq_true_iff, mem_and_makesTag_iff enabled]
  constructor
  · rintro ⟨other, isFirstOther, -, sameOther, rfl⟩
    rw [isFirstOther.eq_of_lower isFirst (sameOther.trans sameWord.symm)]
  · rintro rfl
    exact ⟨first, isFirst, unmarked, sameWord, rfl⟩

theorem filter_makesTag_eq_nil (enabled : config.suggestionsEnabled = true)
    (unwanted : IsMarked markers key ∨
      ∀ word, StandsFree tagWords text markers word → lower word.text ≠ key) :
    (findSuggestions config text markers).filter (MakesTag key) = [] := by
  refine List.filter_eq_nil_iff.mpr fun diagnostic member makesTag => ?_
  obtain ⟨word, isFirst, unmarked, isKey, -⟩ :=
    (mem_and_makesTag_iff enabled).mp ⟨member, of_decide_eq_true makesTag⟩
  rcases unwanted with marked | notFree
  · exact unmarked marked
  · exact notFree word isFirst.isWanted.1 isKey

/-- In a note without a date the first free day word is suggested, and no other. -/
theorem filter_datePattern_of_free (enabled : config.suggestionsEnabled = true)
    (free : StandsFree dayWords text markers word)
    (noDate : ∀ marker ∈ markers, marker.kind ≠ .date) :
    ∃ first, IsFirstDayWord text markers first ∧
      (findSuggestions config text markers).filter (·.code = some .datePatternSuggestion) =
        [suggestDate first] := by
  obtain ⟨first, isFirst⟩ := Found.exists_isFirst _ free
  refine ⟨first, isFirst, ?_⟩
  refine filter_eq_singleton (nodup_findSuggestions enabled) fun diagnostic => ?_
  rw [decide_eq_true_iff, mem_and_datePattern_iff enabled]
  constructor
  · rintro ⟨other, isFirstOther, -, rfl⟩
    rw [isFirstOther.eq isFirst]
  · rintro rfl
    exact ⟨first, isFirst, noDate, rfl⟩

theorem filter_datePattern_eq_nil (enabled : config.suggestionsEnabled = true)
    (unwanted : (∃ marker ∈ markers, marker.kind = .date) ∨
      ∀ word, ¬StandsFree dayWords text markers word) :
    (findSuggestions config text markers).filter (·.code = some .datePatternSuggestion) = [] := by
  refine List.filter_eq_nil_iff.mpr fun diagnostic member isDate => ?_
  obtain ⟨word, isFirst, noDate, -⟩ :=
    (mem_and_datePattern_iff enabled).mp ⟨member, of_decide_eq_true isDate⟩
  rcases unwanted with ⟨marker, isMarker, isDate⟩ | notFree
  · exact noDate marker isMarker isDate
  · exact notFree word isFirst.isWanted

theorem keepsClear_of_reported (enabled : config.suggestionsEnabled = true)
    (suggested : diagnostic ∈ findSuggestions config text (tokenize text)) {reported : Diagnostic}
    (isReported : reported ∈ validateMarkers faults config today text (tokenize text)) :
    KeepsClear diagnostic reported.start reported.stop := by
  obtain ⟨marker, member, -, found⟩ := mem_validateMarkers_iff.mp isReported
  have outside := keepsClear_of_marker enabled suggested member
  obtain ⟨starts, -, stops, -⟩ := validateMarker_range member found
  rw [KeepsClear] at outside ⊢
  omega

/-- Suggestions are about the first free words, one for each tag word that no marker says and
one for a day word in a note without a date, and they keep clear of markers, of what is reported
in markers and of each other. -/
theorem findSuggestions_firstFree (config : MarkerConfig) (faults : Faults) (today : Date)
    (text : List Char) (enabled : config.suggestionsEnabled = true) :
    let markers := scan config.tagScanLimit text
    let suggestions := findSuggestions config text markers
    let tags := fun key => suggestions.filter (MakesTag key)
    let dates := suggestions.filter (·.code = some .datePatternSuggestion)
    (∀ diagnostic, diagnostic ∈ suggestions ↔
      (∃ word, IsFirstTagWord text markers word ∧ ¬IsMarked markers (lower word.text) ∧
        suggestTag word = diagnostic) ∨
      ∃ word, IsFirstDayWord text markers word ∧ (∀ marker ∈ markers, marker.kind ≠ .date) ∧
        suggestDate word = diagnostic) ∧
    (∀ word, StandsFree tagWords text markers word → ¬IsMarked markers (lower word.text) →
      ∃ first, IsFirstTagWord text markers first ∧ lower first.text = lower word.text ∧
        tags (lower word.text) = [suggestTag first]) ∧
    (∀ key, (IsMarked markers key ∨
        ∀ word, StandsFree tagWords text markers word → lower word.text ≠ key) →
      tags key = []) ∧
    (∀ word, StandsFree dayWords text markers word → (∀ marker ∈ markers, marker.kind ≠ .date) →
      ∃ first, IsFirstDayWord text markers first ∧ dates = [suggestDate first]) ∧
    (((∃ marker ∈ markers, marker.kind = .date) ∨ ∀ word, ¬StandsFree dayWords text markers word) →
      dates = []) ∧
    (∀ suggestion ∈ suggestions,
      suggestion.start < suggestion.stop ∧
      (∀ marker ∈ markers, KeepsClear suggestion marker.markerStart marker.markerStop) ∧
      ∀ reported ∈ validateMarkers faults config today text markers,
        KeepsClear suggestion reported.start reported.stop) ∧
    suggestions.Pairwise fun first second => KeepsClear first second.start second.stop := by
  intro markers suggestions tags dates
  refine ⟨fun diagnostic => mem_findSuggestions_iff enabled,
    fun word free unmarked => filter_makesTag_of_free enabled free unmarked,
    fun key unwanted => filter_makesTag_eq_nil enabled unwanted,
    fun word free noDate => filter_datePattern_of_free enabled free noDate,
    filter_datePattern_eq_nil enabled, ?_, pairwise_findSuggestions enabled⟩
  intro suggestion suggested
  refine ⟨(Diagnostic.fits_iff.mp (fits_of_mem_findSuggestions suggested)).2.1,
    fun marker member => keepsClear_of_marker enabled suggested member, ?_⟩
  intro reported isReported
  simp only [suggestions, markers, scan_eq_tokenize] at suggested isReported
  exact keepsClear_of_reported enabled suggested isReported

/-- Three spellings of one word, the first of them in a tag, and a day. -/
theorem findSuggestions_firstFree_behind_tag :
    let note := "[so urgent] Urgent today URGENT".toList
    let markers := scan MarkerConfig.standard.tagScanLimit note
    let suggestions := findSuggestions MarkerConfig.standard note markers
    MarkerConfig.standard.suggestionsEnabled = true ∧
      suggestions.map (fun suggestion => (suggestion.start, suggestion.stop)) =
        [(12, 18), (19, 24)] ∧
      (∃ first, IsFirstTagWord note markers first ∧ lower first.text = "urgent".toList ∧
        suggestions.filter (MakesTag "urgent".toList) = [suggestTag first]) ∧
      suggestions.Pairwise fun first second => KeepsClear first second.start second.stop := by
  intro note markers suggestions
  have enabled : MarkerConfig.standard.suggestionsEnabled = true := by decide
  have free : StandsFree tagWords note markers ⟨12, "Urgent".toList⟩ :=
    (standsFree_iff areLowerCase_tagWords).mpr ⟨by decide +kernel, by decide +kernel⟩
  have unmarked : ¬IsMarked markers (lower "Urgent".toList) := by
    rw [← mem_markedWords_iff]
    decide +kernel
  have isLower : lower "Urgent".toList = "urgent".toList := by decide +kernel
  obtain ⟨-, oneTag, -, -, -, -, apart⟩ :=
    findSuggestions_firstFree MarkerConfig.standard noFaults newYear note enabled
  refine ⟨enabled, by decide +kernel, ?_, apart⟩
  rw [← isLower]
  exact oneTag _ free unmarked

end InlineMarkers.Validation
