import InlineMarkers.Proofs.Validation.LocalFix

/-!
# The first fix of a date

The first fix of a date that names a year, a month and a day is read as a date
of its own, because what follows could not go on with the date that was there.
The first fix of a date without a form is a word, and a word goes on where a
number does not.
-/

namespace InlineMarkers.Validation

open Text Lexeme Tokenizer Calendar

variable {text : List Char} {marker : Marker} {config : MarkerConfig} {today : Date}
  {diagnostic : Diagnostic} {fix : QuickFix}

/-- The parts of a text around a date: what stands before it, and what follows it and cannot
go on with it. -/
structure DateParts (text : List Char) (marker : Marker) (before rest : List Char)
    (more : Char → Bool) : Prop where
  parts : text = before ++ '@' :: (marker.value ++ rest)
  eq_toMarker : marker = (⟨.date, 1, marker.value, 0⟩ : Lexeme).toMarker before.length
  token : Token ⟨.date, 1, marker.value, 0⟩ ('@' :: marker.value) more
  ends : ∀ c ∈ rest.head?, more c = false

theorem exists_dateParts (member : marker ∈ tokenize text) (isDate : marker.kind = .date) :
    ∃ before rest more, DateParts text marker before rest more := by
  obtain ⟨before, body, rest, more, lexeme, parts, token, ends, -, rfl⟩ :=
    exists_token_of_mem member
  cases token with
  | named starts inside => exact ⟨before, rest, _, parts, rfl, .named starts inside, ends⟩
  | numeric starts inside => exact ⟨before, rest, _, parts, rfl, .numeric starts inside, ends⟩
  | _ => simp [Lexeme.toMarker] at isDate

namespace DateParts

variable {before rest : List Char} {more : Char → Bool}

theorem start_eq (dateParts : DateParts text marker before rest more) :
    marker.start = before.length + 1 := by
  rw [dateParts.eq_toMarker]
  rfl

theorem value_ne_nil (dateParts : DateParts text marker before rest more) :
    marker.value ≠ [] := by
  intro empty
  have token := dateParts.token
  rw [empty] at token
  cases token

theorem text_after (dateParts : DateParts text marker before rest more)
    (member : marker ∈ tokenize text)
    (found : validateMarker noFaults config today marker = some diagnostic)
    (offered : fix ∈ diagnostic.fixes) :
    diagnostic.applyFix fix text = before ++ '@' :: (fix.replacement ++ rest) := by
  have keep : fix.valueAfter marker.value = fix.replacement :=
    if_neg (by simpa using dateParts.value_ne_nil)
  have stop : marker.stop = before.length + 1 + marker.value.length := by
    rw [dateParts.eq_toMarker]
    rfl
  rw [applyFix_eq member found offered, keep, dateParts.start_eq, stop, dateParts.parts,
    List.take_length_add_append, Nat.add_assoc, List.drop_length_add_append, Nat.add_comm 1,
    List.drop_succ_cons, List.drop_left]
  simp

/-- A date that is read where the date stood is a marker of the text after the fix. -/
theorem mem_after (dateParts : DateParts text marker before rest more)
    (member : marker ∈ tokenize text) {value tail : List Char} (noBracket : ']' ∉ value)
    (found : read? ('@' :: (value ++ rest)) = some ⟨.date, 1, tail, 0⟩) :
    (⟨.date, 1, tail, 0⟩ : Lexeme).toMarker before.length ∈
      tokenize (before ++ '@' :: (value ++ rest)) := by
  have place : marker.markerStart = before.length := by rw [dateParts.eq_toMarker]; rfl
  have dropped : text.drop marker.markerStart = '@' :: (marker.value ++ rest) := by
    rw [dateParts.parts, place, List.drop_left]
  have taken : text.take marker.markerStart = before := by
    rw [dateParts.parts, place, List.take_left]
  have sameHead : ('@' :: (value ++ rest)).head? = (text.drop marker.markerStart).head? := by
    rw [dropped]
    rfl
  have closing : ']' ∈ '@' :: (value ++ rest) → ']' ∈ text.drop marker.markerStart := by
    rw [dropped]
    simp only [List.mem_cons, List.mem_append]
    tauto
  have spliced := mem_tokenize_splice member sameHead closing found rfl
  rwa [place, ← place, taken, place] at spliced

theorem getElem?_start (dateParts : DateParts text marker before rest more) :
    text[before.length + 1]? = marker.value.head? := by
  obtain ⟨first, value, valueEq⟩ := List.exists_cons_of_ne_nil dateParts.value_ne_nil
  rw [dateParts.parts, List.getElem?_append_right (Nat.le_add_right _ _),
    Nat.add_sub_cancel_left, valueEq]
  rfl

theorem getElem?_stop (dateParts : DateParts text marker before rest more) :
    text[before.length + 1 + marker.value.length]? = rest.head? := by
  rw [dateParts.parts, Nat.add_assoc, List.getElem?_append_right (Nat.le_add_right _ _),
    Nat.add_sub_cancel_left, Nat.add_comm 1, List.getElem?_cons_succ,
    List.getElem?_append_right (Nat.le_refl _), Nat.sub_self, List.head?_eq_getElem?]

/-- The diagnostic of a date points at its value. -/
theorem range_eq (dateParts : DateParts text marker before rest more)
    (found : validateMarker noFaults config today marker = some diagnostic) :
    diagnostic.start = before.length + 1 ∧
      diagnostic.stop = before.length + 1 + marker.value.length := by
  cases diagnose_flags found with
  | value _ _ reports =>
      have start := reports.start_eq
      have stop := reports.stop_eq
      rw [dateParts.start_eq] at start stop
      omega
  | brackets _ empty => exact absurd empty dateParts.value_ne_nil

theorem covers_after (dateParts : DateParts text marker before rest more)
    (found : validateMarker noFaults config today marker = some diagnostic) {value : List Char}
    (nonempty : value ≠ []) :
    ((⟨.date, 1, value, 0⟩ : Lexeme).toMarker before.length).Covers diagnostic.start.toNat := by
  have start := (dateParts.range_eq found).1
  have filled := List.length_pos_iff.mpr nonempty
  simp only [Marker.Covers, Lexeme.toMarker, Lexeme.length]
  omega

/-- A date with a separator begins with a digit, and no character of a number follows it. -/
theorem ends_of_separated (dateParts : DateParts text marker before rest more)
    (separated : '/' ∈ marker.value ∨ '-' ∈ marker.value) :
    ∀ c ∈ rest.head?, isDateCharacter c = false := by
  have token := dateParts.token
  have ends := dateParts.ends
  generalize marker.value = value at token separated
  cases token with
  | @named first run starts inside =>
      have name : ∀ c ∈ first :: run, isNameCharacter c = true := by
        intro c member
        rcases List.mem_cons.mp member with rfl | later
        · simp [isNameCharacter, Char.isAlphanum, starts]
        · exact inside c later
      rcases separated with slash | hyphen
      · exact absurd (name _ slash) (by decide)
      · exact absurd (name _ hyphen) (by decide)
  | numeric => exact ends

end DateParts

/-! ## Dates that name a year, a month and a day -/

theorem read?_isoText {rest : List Char} (ends : ∀ c ∈ rest.head?, isDateCharacter c = false)
    (year month day : Nat) :
    read? ('@' :: (isoText year month day ++ rest)) =
      some ⟨.date, 1, isoText year month day, 0⟩ := by
  obtain ⟨first, digits, written, digit⟩ := exists_isoText_eq_cons year month day
  have inside : ∀ c ∈ digits, isDateCharacter c = true := by
    intro c member
    have inText : c ∈ isoText year month day := by
      rw [written]
      exact List.mem_cons_of_mem first member
    exact isDateCharacter_of_mem_isoText inText
  rw [written]
  exact read?_of_token (.numeric digit inside) ends

/-- After the first fix of a date that names a year, a month and a day, there is a date in its
place on which the same is not reported. -/
theorem exists_cleared_date (allowed : config.firstYear ≤ today.year ∧
    today.year ≤ config.lastYear) (member : marker ∈ tokenize text) (isDate : marker.kind = .date)
    (found : validateMarker noFaults config today marker = some diagnostic)
    (known : diagnostic.code ≠ some .dateFormatInvalid) (isFirst : fix ∈ diagnostic.fixes.head?) :
    ∃ changed ∈ tokenize (diagnostic.applyFix fix text), changed.Covers diagnostic.start.toNat ∧
      ∀ again, validateMarker noFaults config today changed = some again →
        again.code ≠ diagnostic.code := by
  obtain ⟨before, rest, more, dateParts⟩ := exists_dateParts member isDate
  have outcome := checkValue_of_diagnose found
  rw [isDate] at outcome
  obtain ⟨⟨parts, named⟩, year, month, day, code, replacement, codeEq, clears⟩ :=
    exists_isoText_of_first allowed outcome known isFirst
  have ends := dateParts.ends_of_separated (DateForm.separated_of_parts named)
  have noBracket : ']' ∉ isoText year month day := fun inside =>
    absurd (isDateCharacter_of_mem_isoText inside) (by decide)
  have changedMember := dateParts.mem_after member noBracket (read?_isoText ends year month day)
  rw [← replacement, ← dateParts.text_after member found (List.mem_of_mem_head? isFirst),
    replacement] at changedMember
  refine ⟨_, changedMember, dateParts.covers_after found ?_, fun again isAgain => ?_⟩
  · obtain ⟨first, digits, written, -⟩ := exists_isoText_eq_cons year month day
    rw [written]
    exact List.cons_ne_nil first digits
  · rw [codeEq]
    exact clears _ again (checkValue_of_diagnose isAgain)

/-! ## Dates without a form -/

/-- The name characters that go on with today. -/
theorem read?_today (rest : List Char) :
    read? ('@' :: ("today".toList ++ rest)) =
      some ⟨.date, 1, "today".toList ++ rest.takeWhile isNameCharacter, 0⟩ := by
  have inside : ∀ c ∈ ['o', 'd', 'a', 'y'] ++ rest.takeWhile isNameCharacter,
      isNameCharacter c = true := by
    intro c member
    rcases List.mem_append.mp member with inToday | inRun
    · have letters : ['o', 'd', 'a', 'y'].all isNameCharacter = true := by decide
      exact List.all_eq_true.mp letters c inToday
    · exact inside_takeWhile isNameCharacter rest c inRun
  have letter : Char.isAlpha 't' = true := by decide
  have read := read?_of_token (.named letter inside)
    (head?_drop_takeWhile isNameCharacter rest)
  simpa [takeWhile_append_drop] using read

/-- Whether a diagnostic points at something that begins with a digit and is followed by a
character of a name. -/
def RunsOn (text : List Char) (diagnostic : Diagnostic) : Prop :=
  text[diagnostic.start.toNat]?.any Char.isDigit = true ∧
    text[diagnostic.stop.toNat]?.any isNameCharacter = true

/-- Today goes on with what follows it exactly when the date that was there began with a
digit and a name character follows. -/
theorem DateParts.runsOn_iff {before rest : List Char} {more : Char → Bool}
    (dateParts : DateParts text marker before rest more)
    (found : validateMarker noFaults config today marker = some diagnostic) :
    RunsOn text diagnostic ↔ rest.takeWhile isNameCharacter ≠ [] := by
  obtain ⟨start, stop⟩ := dateParts.range_eq found
  have startPlace : diagnostic.start.toNat = before.length + 1 := by omega
  have stopPlace : diagnostic.stop.toNat = before.length + 1 + marker.value.length := by omega
  rw [RunsOn, startPlace, stopPlace, dateParts.getElem?_start, dateParts.getElem?_stop, ne_eq,
    ← List.isEmpty_iff, isEmpty_takeWhile, Bool.not_eq_true', Bool.not_eq_false]
  refine and_iff_right_of_imp fun follows => ?_
  have token := dateParts.token
  have ends := dateParts.ends
  generalize marker.value = value at token
  cases token with
  | named =>
      cases rest with
      | nil => simp at follows
      | cons c rest =>
          have stops := ends c (by simp)
          simp [stops] at follows
  | numeric starts => simpa using starts

/-- After the first fix of a date without a form, there is a date in its place, and it is
without a form again exactly when today runs on. -/
theorem exists_today (member : marker ∈ tokenize text) (isDate : marker.kind = .date)
    (found : validateMarker noFaults config today marker = some diagnostic)
    (unknown : diagnostic.code = some .dateFormatInvalid) (isFirst : fix ∈ diagnostic.fixes.head?) :
    ∃ changed ∈ tokenize (diagnostic.applyFix fix text), changed.Covers diagnostic.start.toNat ∧
      ((∃ again, validateMarker noFaults config today changed = some again ∧
        again.code = diagnostic.code ∧ again.start = diagnostic.start) ↔
          RunsOn text diagnostic) := by
  obtain ⟨before, rest, more, dateParts⟩ := exists_dateParts member isDate
  have outcome := checkValue_of_diagnose found
  rw [isDate] at outcome
  obtain ⟨tomorrow, next, reports⟩ := reports_of_unknown outcome unknown
  have replacement := reports.eq_of_first isFirst
  have changedMember := dateParts.mem_after member (by decide) (read?_today rest)
  rw [← replacement, ← dateParts.text_after member found (List.mem_of_mem_head? isFirst),
    replacement] at changedMember
  refine ⟨_, changedMember, dateParts.covers_after found (by simp), ?_⟩
  rw [dateParts.runsOn_iff found]
  by_cases stops : rest.takeWhile isNameCharacter = []
  · have accepted : checkDate config today ("today".toList ++ rest.takeWhile isNameCharacter)
        (before.length + 1) = .ok none := by
      rw [stops, List.append_nil, checkDate_today]
    refine iff_of_false ?_ (not_not_intro stops)
    rintro ⟨again, isAgain, -⟩
    have outcomeAgain : checkDate config today ("today".toList ++ rest.takeWhile isNameCharacter)
        (before.length + 1) = .ok (some again) := checkValue_of_diagnose isAgain
    rw [accepted] at outcomeAgain
    simp at outcomeAgain
  · have refused := checkDate_today_append config next stops
      (inside_takeWhile isNameCharacter rest) (before.length + 1)
    refine iff_of_true ⟨_, diagnose_of_checkValue refused, ?_, ?_⟩ stops
    · rw [unknown]
      rfl
    · rw [(dateParts.range_eq found).1]
      rfl

end InlineMarkers.Validation
