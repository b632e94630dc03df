import InlineMarkers.Proofs.Completion.ContextWindow
import InlineMarkers.Proofs.Marker.ScanRefinement
import InlineMarkers.Proofs.Validation.DateForms

/-!
# The date under the cursor

A text may end with a date, as the scanner reads it.  Then that date is being
typed, unless a plus sign stands before it with no blank in between.  Completion
takes all that follows such a plus sign for a user name, also where the scanner's
user name ends at a comma or a bracket, or where the plus sign is part of a tag.

The opening of every kind of marker ends with a character that an open value of
the kind does not hold.  So an open marker starts before the last such character
of the text, and for a date it starts right there.
-/

namespace InlineMarkers

open Text

/-- The character that ends the opening of a kind. -/
def MarkerKind.trigger : MarkerKind → Char
  | .tag => '['
  | .color => ':'
  | .priority => '#'
  | .date => '@'
  | .assignee => '+'

namespace CompletionContext

variable {kind : MarkerKind} {text before rest covered opening query tail value : List Char}
  {found : Found}

/-! ## Where open markers start -/

theorem isOpenCharacter_trigger (kind : MarkerKind) :
    isOpenCharacter kind kind.trigger = false := by
  cases kind <;> decide

/-- The trigger is no letter, so it stands in every opening as it is. -/
theorem OpenParts.trigger_mem (parts : OpenParts kind rest covered opening query tail) :
    kind.trigger ∈ opening := by
  have inOpening : kind.trigger ∈ kind.opening := by cases kind <;> decide
  rw [← parts.opening_eq] at inOpening
  obtain ⟨c, member, lowered⟩ := List.mem_map.mp inOpening
  have noLetter : kind.trigger.isAlpha = false := by cases kind <;> decide
  rwa [← eq_of_toLower_eq noLetter lowered]

theorem OpenParts.trigger_notMem (parts : OpenParts kind rest covered opening query tail) :
    kind.trigger ∉ query ++ tail := by
  intro member
  rcases List.mem_append.mp member with inQuery | inTail
  · have outside := parts.inside _ inQuery
    rw [isOpenCharacter_trigger] at outside
    exact Bool.noConfusion outside
  · rcases parts.ends with rfl | ⟨rfl, -⟩
    · exact absurd inTail List.not_mem_nil
    · cases kind <;> exact absurd inTail (by decide)

theorem openMarker_of_parts (parts : OpenParts kind rest covered opening query [])
    (passed : List Char) : openMarker kind passed rest = some covered := by
  have size := parts.opening_length
  have run : (query ++ []).takeWhile (isOpenCharacter kind) = query :=
    takeWhile_append_of_head parts.inside nofun
  have whole : opening.length + query.length = rest.length := by
    rw [parts.rest_eq, List.append_nil, List.length_append]
  simp only [openMarker, ← size]
  rw [show rest.take opening.length = opening by rw [parts.rest_eq, List.take_left],
    show rest.drop opening.length = query ++ [] by rw [parts.rest_eq, List.drop_left], run, whole,
    List.drop_length, List.take_length, parts.rest_eq, parts.covered_eq, parts.opening_eq]
  simp [atEnd]

/-- A text is open to its end when it ends with the parts of an open marker. -/
theorem exists_open?_of_parts (before : List Char)
    (parts : OpenParts kind rest covered opening query []) :
    ∃ found, open? kind (before ++ rest) = some found := by
  apply Option.isSome_iff_exists.mp
  exact Pattern.isSome_firstFrom? before (by rw [openMarker_of_parts parts]; rfl)

/-- An open marker starts before every piece at the end of the text without its trigger. -/
theorem position_lt_of_open? (isOpen : open? kind (before ++ rest) = some found)
    (untriggered : kind.trigger ∉ rest) : found.position < before.length := by
  obtain ⟨opening, query, tail, parts⟩ := exists_parts_of_open? isOpen
  have member := List.mem_append_left (query ++ tail) parts.trigger_mem
  rw [← parts.rest_eq] at member
  by_contra behind
  rw [List.drop_append, List.drop_of_length_le (by omega), List.nil_append] at member
  exact untriggered (List.mem_of_mem_drop member)

theorem OpenParts.tail_eq_nil (parts : OpenParts kind rest covered opening query tail)
    (unbroken : '\n' ∉ rest) : tail = [] := by
  refine parts.ends.resolve_right ?_
  rintro ⟨rfl, -⟩
  rw [parts.rest_eq] at unbroken
  simp at unbroken

/-! ## A text that ends with a date -/

/-- A text that ends with an at sign and a value in the characters of dates. -/
structure EndsWithDate (text before value : List Char) : Prop where
  text_eq : text = before ++ '@' :: value
  inside : ∀ c ∈ value, Lexeme.isNameCharacter c = true ∨ Lexeme.isDateCharacter c = true

/-- A plus sign stands in a text with no blank behind it. -/
def HasOpenPlus (text : List Char) : Prop :=
  ∃ front run, text = front ++ '+' :: run ∧ ∀ c ∈ run, isBlank c = false

/-- Such a plus sign is met on the way back from the end of the text to the next blank. -/
theorem hasOpenPlus_iff :
    HasOpenPlus text ↔ '+' ∈ text.reverse.takeWhile (!isBlank ·) := by
  constructor
  · rintro ⟨front, run, rfl, solid⟩
    rw [List.reverse_append, List.reverse_cons, List.append_assoc, List.singleton_append,
      List.takeWhile_append_of_pos (by simpa using solid)]
    simp [isBlank]
  · intro member
    obtain ⟨run, front, cut⟩ := List.append_of_mem member
    have solid : ∀ c ∈ run, isBlank c = false := by
      intro c inRun
      have inside := List.mem_takeWhile_imp (cut ▸ List.mem_append_left _ inRun)
      simpa using inside
    obtain ⟨rest, whole⟩ := List.takeWhile_prefix (p := (!isBlank ·)) (l := text.reverse)
    rw [cut, List.append_assoc, List.cons_append] at whole
    refine ⟨(front ++ rest).reverse, run.reverse, ?_, by simpa using solid⟩
    rw [← List.reverse_reverse text, ← whole, List.reverse_append, List.reverse_cons,
      List.append_assoc, List.singleton_append]

instance (text : List Char) : Decidable (HasOpenPlus text) :=
  decidable_of_iff _ hasOpenPlus_iff.symm

/-- Of several such plus signs there is a last one. -/
theorem HasOpenPlus.exists_last (plus : HasOpenPlus text) :
    ∃ front name, text = front ++ '+' :: name ∧ ∀ c ∈ name, isBlank c = false ∧ c ≠ '+' := by
  obtain ⟨front, run, rfl, solid⟩ := plus
  obtain ⟨others, name, cut, isLast⟩ :=
    exists_last_of_mem (List.mem_cons_self (a := '+') (l := run))
  refine ⟨front ++ others, name, by rw [cut, List.append_assoc], fun c member => ⟨?_, ?_⟩⟩
  · have inTyped : c ∈ '+' :: run := by
      rw [cut]
      exact List.mem_append_right others (List.mem_cons_of_mem _ member)
    rcases List.mem_cons.mp inTyped with rfl | inRun
    · decide
    · exact solid c inRun
  · rintro rfl
    exact isLast member

/-- A date that ends where its text ends, and its place in the text. -/
theorem exists_endsWithDate {limit : Nat} {marker : Marker} (member : marker ∈ scan limit text)
    (isDate : marker.kind = .date) (ends : marker.stop = text.length) :
    ∃ before value, EndsWithDate text before value ∧
      marker.value = value ∧ marker.markerStart = before.length ∧
      marker.start = before.length + 1 := by
  rw [scan_eq_tokenize] at member
  obtain ⟨before, body, rest, more, lexeme, rfl, token, -, -, rfl⟩ :=
    Tokenizer.exists_token_of_mem member
  have noRest : lexeme.lead + lexeme.value.length = body.length → rest = [] := by
    intro whole
    simp only [Lexeme.toMarker, List.length_append] at ends
    exact List.length_eq_zero_iff.mp (by omega)
  cases token with
  | @named first run letter inside =>
      obtain rfl := noRest (by simp; omega)
      refine ⟨before, first :: run, ⟨by simp, fun c member => .inl ?_⟩, rfl, rfl, rfl⟩
      rcases List.mem_cons.mp member with rfl | inRun
      · simp [Lexeme.isNameCharacter, Char.isAlphanum, letter]
      · exact inside c inRun
  | @numeric first run digit inside =>
      obtain rfl := noRest (by simp; omega)
      refine ⟨before, first :: run, ⟨by simp, fun c member => .inr ?_⟩, rfl, rfl, rfl⟩
      rcases List.mem_cons.mp member with rfl | inRun
      · simp [Lexeme.isDateCharacter, digit]
      · exact inside c inRun
  | _ => cases isDate

namespace EndsWithDate

variable (ends : EndsWithDate text before value)

include ends

theorem isBlank_eq {c : Char} (member : c ∈ value) : isBlank c = false :=
  (ends.inside c member).elim (fun name => (DateForm.isSolid_of_isNameCharacter name).2)
    fun date => (DateForm.isSolid_of_isDateCharacter date).2

theorem trigger_notMem (kind : MarkerKind) : kind.trigger ∉ value := by
  intro member
  have classes := ends.inside _ member
  cases kind <;> exact absurd classes (by decide)

theorem trigger_notMem_of_ne (other : kind ≠ .date) : kind.trigger ∉ '@' :: value := by
  rw [List.mem_cons, not_or]
  refine ⟨?_, ends.trigger_notMem kind⟩
  cases kind <;> first | exact absurd rfl other | decide

/-- Open markers of other kinds start before the date. -/
theorem position_lt (other : kind ≠ .date) (isOpen : open? kind text = some found) :
    found.position < before.length := by
  rw [ends.text_eq] at isOpen
  exact position_lt_of_open? isOpen (ends.trigger_notMem_of_ne other)

theorem unbroken : '\n' ∉ '@' :: value := by
  rw [List.mem_cons, not_or]
  exact ⟨by decide, fun member => absurd (ends.isBlank_eq member) (by decide)⟩

theorem openParts : OpenParts .date ('@' :: value) ('@' :: value) ['@'] value [] := by
  refine ⟨by simp, rfl, by decide, fun c member => ?_, .inl rfl⟩
  have noAt : c ≠ '@' := by
    rintro rfl
    exact ends.trigger_notMem .date member
  simp [isOpenCharacter, noAt, ends.isBlank_eq member]

/-- An open date starts at the last at sign of the text, neither behind it nor before it. -/
theorem position_eq (isOpen : open? .date text = some found) :
    found.position = before.length := by
  obtain ⟨opening, query, tail, parts⟩ := exists_parts_of_open? isOpen
  have size : opening.length = 1 := parts.opening_length
  have notBehind : found.position < before.length + 1 := by
    rw [ends.text_eq, ← List.singleton_append, ← List.append_assoc] at isOpen
    simpa using position_lt_of_open? isOpen (ends.trigger_notMem .date)
  have notBefore : ¬found.position < before.length := by
    intro early
    have behind : text.drop (found.position + 1) = query ++ tail := by
      rw [← List.drop_drop, parts.rest_eq, ← size, List.drop_left]
    have member : '@' ∈ text.drop (found.position + 1) := by
      rw [ends.text_eq, List.drop_append_of_le_length early]
      simp
    rw [behind] at member
    exact parts.trigger_notMem member
  omega

theorem open?_date : open? .date text = some ⟨before.length, '@' :: value⟩ := by
  have isOpen := exists_open?_of_parts before ends.openParts
  rw [← ends.text_eq] at isOpen
  obtain ⟨⟨position, covered⟩, isOpen⟩ := isOpen
  obtain rfl : position = before.length := ends.position_eq isOpen
  obtain ⟨opening, query, tail, parts⟩ := exists_parts_of_open? isOpen
  have here : text.drop before.length = '@' :: value := by rw [ends.text_eq, List.drop_left]
  dsimp only at parts
  rw [here] at parts
  obtain rfl := parts.tail_eq_nil ends.unbroken
  rw [isOpen, parts.covered_eq, parts.rest_eq, List.append_nil]

/-- An open user name starts with a plus sign before the date and holds all that follows. -/
theorem hasOpenPlus_of_open? (isOpen : open? .assignee text = some found) :
    HasOpenPlus before := by
  have early := ends.position_lt (by decide) isOpen
  obtain ⟨opening, query, tail, parts⟩ := exists_parts_of_open? isOpen
  obtain ⟨plus, rfl⟩ := List.length_eq_one_iff.mp parts.opening_length
  obtain rfl : '+' = plus := List.mem_singleton.mp parts.trigger_mem
  have rest := parts.rest_eq
  obtain ⟨c, run, behind⟩ := List.exists_cons_of_ne_nil
    (l := before.drop found.position) (by simpa using early)
  rw [ends.text_eq, List.drop_append_of_le_length (Nat.le_of_lt early), behind,
    List.cons_append, List.singleton_append, List.cons.injEq] at rest
  obtain ⟨rfl, joined⟩ := rest
  have inQuery : run <+: query := by
    refine List.prefix_of_prefix_length_le ⟨'@' :: value, joined⟩ (List.prefix_append _ _) ?_
    have size := congrArg List.length joined
    have atMostOne : tail.length ≤ 1 := by rcases parts.ends with rfl | ⟨rfl, -⟩ <;> simp
    simp only [List.length_append, List.length_cons] at size
    omega
  refine ⟨before.take found.position, run, ?_, fun c member => ?_⟩
  · rw [← behind, List.take_append_drop]
  · exact isBlank_of_isOpenCharacter (by decide : MarkerKind.assignee ≠ .tag)
      (parts.inside c (inQuery.subset member))

theorem exists_open?_of_hasOpenPlus (plus : HasOpenPlus before) :
    ∃ found, open? .assignee text = some found := by
  obtain ⟨front, name, cut, inName⟩ := plus.exists_last
  have parts : OpenParts .assignee ('+' :: (name ++ '@' :: value))
      ('+' :: (name ++ '@' :: value)) ['+'] (name ++ '@' :: value) [] := by
    refine ⟨by simp, rfl, by decide, fun c member => ?_, .inl rfl⟩
    have inClass : isBlank c = false ∧ c ≠ '+' := by
      rcases List.mem_append.mp member with isName | isDate
      · exact inName c isName
      refine ⟨?_, ?_⟩
      · rcases List.mem_cons.mp isDate with rfl | inValue
        · decide
        · exact ends.isBlank_eq inValue
      · rintro rfl
        exact ends.trigger_notMem_of_ne (by decide : MarkerKind.assignee ≠ .date) isDate
    simp [isOpenCharacter, inClass]
  have isOpen := exists_open?_of_parts front parts
  rwa [← List.cons_append, ← List.append_assoc, ← cut, ← ends.text_eq] at isOpen

/-- The date counts as a part of a user name exactly when there is such a plus sign. -/
theorem isInside_date_iff (covered : List Char) :
    isInside text .date ⟨before.length, covered⟩ = true ↔ HasOpenPlus before := by
  rw [isInside, Option.any_eq_true]
  constructor
  · rintro ⟨assignee, isOpen, -⟩
    exact ends.hasOpenPlus_of_open? isOpen
  · intro plus
    obtain ⟨assignee, isOpen⟩ := ends.exists_open?_of_hasOpenPlus plus
    exact ⟨assignee, isOpen, decide_eq_true (ends.position_lt (by decide) isOpen)⟩

theorem candidate?_date_eq_none_iff : candidate? text .date = none ↔ HasOpenPlus before := by
  rw [candidate?, ends.open?_date, Option.map_eq_none_iff, Option.filter_eq_none_iff,
    ← ends.isInside_date_iff ('@' :: value)]
  simp

end EndsWithDate

/-! ## The marker that is being typed -/

theorem isSome_foldl_later (candidates : List (Option (MarkerKind × Found)))
    (best : Option (MarkerKind × Found)) :
    (candidates.foldl later best).isSome = (best.isSome || candidates.any Option.isSome) := by
  induction candidates generalizing best with
  | nil => simp
  | cons next candidates ih =>
      have both : (later best next).isSome = (best.isSome || next.isSome) := by
        unfold later
        split
        · split <;> rfl
        · simp
        · cases best <;> simp_all
      rw [List.foldl_cons, ih, both, List.any_cons, Bool.or_assoc]

/-- An open marker is not beaten by those that start before it. -/
theorem foldl_later_eq {candidates : List (Option (MarkerKind × Found))}
    {best : MarkerKind × Found}
    (earlier : ∀ other, some other ∈ candidates → other.2.position ≤ best.2.position) :
    candidates.foldl later (some best) = some best := by
  induction candidates with
  | nil => rfl
  | cons next candidates ih =>
      have kept : later (some best) next = some best := by
        cases next with
        | none => rfl
        | some other => exact if_neg (Nat.not_lt.mpr (earlier other List.mem_cons_self))
      rw [List.foldl_cons, kept]
      exact ih fun other member => earlier other (List.mem_cons_of_mem _ member)

namespace EndsWithDate

variable (ends : EndsWithDate text before value)

include ends

/-- Without such a plus sign the date is the open marker that starts last. -/
theorem last?_eq_date (alone : ¬HasOpenPlus before) :
    last? text = some (.date, ⟨before.length, '@' :: value⟩) := by
  have date : candidate? text .date = some (.date, ⟨before.length, '@' :: value⟩) := by
    have outside := mt (ends.isInside_date_iff ('@' :: value)).mp alone
    rw [candidate?, ends.open?_date, Option.filter_some, if_pos (by simp [outside]),
      Option.map_some]
  rw [last?, List.map_cons, List.foldl_cons, date]
  refine foldl_later_eq fun ⟨kind, found⟩ member => ?_
  obtain ⟨tried, inRest, isCandidate⟩ := List.mem_map.mp member
  obtain ⟨rfl, isOpen⟩ := open?_of_candidate? isCandidate
  have other : tried ≠ .date := by
    rintro rfl
    exact absurd inRest (by decide)
  exact Nat.le_of_lt (ends.position_lt other isOpen)

/-- With such a plus sign another marker is being typed, which starts before the date. -/
theorem exists_last?_of_hasOpenPlus (plus : HasOpenPlus before) :
    ∃ kind found, last? text = some (kind, found) ∧ kind ≠ .date ∧
      found.position < before.length := by
  obtain ⟨assignee, isOpen⟩ := ends.exists_open?_of_hasOpenPlus plus
  have candidate : candidate? text .assignee = some (.assignee, assignee) := by
    rw [candidate?, isOpen]
    rfl
  have isSome : (last? text).isSome = true := by
    rw [last?, isSome_foldl_later, Option.isSome_none, Bool.false_or, List.any_eq_true]
    exact ⟨_, List.mem_map_of_mem (a := .assignee) (by decide), by rw [candidate]; rfl⟩
  obtain ⟨⟨kind, found⟩, isLast⟩ := Option.isSome_iff_exists.mp isSome
  have other : kind ≠ .date := by
    rintro rfl
    have noCandidate := ends.candidate?_date_eq_none_iff.mpr plus
    rw [candidate?_of_last? isLast] at noCandidate
    cases noCandidate
  exact ⟨kind, found, isLast, other, ends.position_lt other (open?_of_last? isLast)⟩

end EndsWithDate

/-- A text of at most 256 characters ends with a date.  That date is being typed if no plus
sign stands before it without a blank in between; otherwise another marker is being typed, which
starts before the date. -/
theorem detect_of_last_date (limit : Nat) (text : List Char) (short : text.length ≤ 256)
    {marker : Marker} (isLast : (scan limit text).getLast? = some marker)
    (isDate : marker.kind = .date) (ends : marker.stop = text.length) :
    (detect text none = some
        ⟨.date, marker.value, marker.markerStart, marker.start, marker.stop⟩ ↔
      ¬HasOpenPlus (text.take marker.markerStart)) ∧
    (HasOpenPlus (text.take marker.markerStart) →
      ∃ context, detect text none = some context ∧ context.kind ≠ .date ∧
        context.triggerStart < marker.markerStart) := by
  obtain ⟨before, value, endsWithDate, valueEq, markerStart, start⟩ :=
    exists_endsWithDate (List.mem_of_getLast? isLast) isDate ends
  have taken : text.take marker.markerStart = before := by
    rw [markerStart, endsWithDate.text_eq, List.take_left]
  rw [taken, detect_of_short short, ends, valueEq, markerStart, start]
  have elsewhere (plus : HasOpenPlus before) :
      ∃ context, (last? text).map (fun candidate => ofOpen 0 text.length candidate.1 candidate.2) =
        some context ∧ context.kind ≠ .date ∧ context.triggerStart < before.length := by
    obtain ⟨kind, found, isLast, other, early⟩ := endsWithDate.exists_last?_of_hasOpenPlus plus
    refine ⟨_, by rw [isLast, Option.map_some], ?_, ?_⟩
    · rwa [kind_ofOpen]
    · simp only [ofOpen]
      split <;> simpa using early
  refine ⟨⟨fun isDateContext plus => ?_, fun alone => ?_⟩, elsewhere⟩
  · obtain ⟨context, detected, other, -⟩ := elsewhere plus
    rw [isDateContext] at detected
    rw [← Option.some.inj detected] at other
    exact other rfl
  · rw [endsWithDate.last?_eq_date alone]
    simp [ofOpen, MarkerKind.opening]

/-- A date that stands behind a sum, with a blank between them. -/
theorem detect_of_last_date_of_sum :
    "a+b @today".toList.length ≤ 256 ∧
      (scan 500 "a+b @today".toList).getLast? = some ⟨.date, "today".toList, 5, 10, 4, 10⟩ ∧
      detect "a+b @today".toList none = some ⟨.date, "today".toList, 4, 5, 10⟩ := by
  have short : "a+b @today".toList.length ≤ 256 := by decide
  have isLast : (scan 500 "a+b @today".toList).getLast? =
      some ⟨.date, "today".toList, 5, 10, 4, 10⟩ := by
    decide +kernel
  exact ⟨short, isLast, (detect_of_last_date 500 _ short isLast rfl rfl).1.mpr (by decide)⟩

/-- The tag before the date holds a plus sign, and completion takes the date for a part of a
user name. -/
theorem exists_date_taken_for_name :
    (scan 500 "[x+y]@today".toList).getLast? = some ⟨.date, "today".toList, 6, 11, 5, 11⟩ ∧
      (∀ marker ∈ scan 500 "[x+y]@today".toList, marker.kind ≠ .assignee) ∧
      detect "[x+y]@today".toList none = some ⟨.assignee, "y]@today".toList, 2, 3, 11⟩ := by
  refine ⟨by decide +kernel, by decide +kernel, by decide +kernel⟩

end CompletionContext

end InlineMarkers
