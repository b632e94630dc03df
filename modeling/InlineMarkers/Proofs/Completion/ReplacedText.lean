import InlineMarkers.Completion.Context
import InlineMarkers.Proofs.Text.Runs
import InlineMarkers.Proofs.Text.SearchPlaces
import InlineMarkers.Proofs.Text.Slices
import InlineMarkers.Proofs.Text.Trim
import Mathlib.Data.List.Basic

/-!
# The text that a completion replaces

A completion replaces what stands between its anchor and the cursor.  For a tag
that is the query and the blanks behind it.  For every other kind it is the query,
in which there are no blanks, and the line break that may stand right before the
cursor: of all blanks, that one does not close a marker.
-/

namespace InlineMarkers

open Text

namespace CompletionContext

variable {kind : MarkerKind} {text rest covered opening query tail : List Char}
  {found : Found} {c : Char}

/-! ## Open markers -/

/-- A text that is an open marker to its end: the opening in some case, what is typed of the
value, and a line break that may follow if the marker is not a tag. -/
structure OpenParts (kind : MarkerKind) (rest covered opening query tail : List Char) : Prop where
  rest_eq : rest = opening ++ (query ++ tail)
  covered_eq : covered = opening ++ query
  opening_eq : opening.map Char.toLower = kind.opening
  inside : ∀ c ∈ query, isOpenCharacter kind c = true
  ends : tail = [] ∨ tail = ['\n'] ∧ kind ≠ .tag

theorem isBlank_of_isOpenCharacter (notTag : kind ≠ .tag)
    (inside : isOpenCharacter kind c = true) : isBlank c = false := by
  cases kind <;> simp_all [isOpenCharacter]

theorem exists_openParts {before : List Char}
    (matched : openMarker kind before rest = some covered) :
    ∃ opening query tail, OpenParts kind rest covered opening query tail := by
  obtain ⟨opens, matched⟩ := Option.ite_none_right_eq_some.mp matched
  obtain ⟨ends, covers⟩ := Option.ite_none_right_eq_some.mp matched
  have outside := head?_drop_takeWhile (isOpenCharacter kind) (rest.drop kind.opening.length)
  rw [← List.drop_drop] at ends
  have typed := takeWhile_append_drop (isOpenCharacter kind) (rest.drop kind.opening.length)
  have whole := List.take_append_drop kind.opening.length rest
  rw [← typed] at whole
  refine ⟨_, _, _, whole.symm, ?_, eq_of_beq opens, fun c => List.mem_takeWhile_imp, ?_⟩
  · rw [← Option.some.inj covers, List.take_add,
      ← List.prefix_iff_eq_take.mp (List.takeWhile_prefix _)]
  · -- a tag goes on behind a line break, so none can be left of it
    refine (eq_of_atEnd ends).imp_right fun isBreak => ⟨isBreak, ?_⟩
    rintro rfl
    rw [isBreak] at outside
    exact absurd (outside '\n' rfl) (by decide)

/-- The last of some open markers is one of them. -/
theorem mem_of_foldl_later {candidates : List (Option (MarkerKind × Found))}
    {best : Option (MarkerKind × Found)} {last : MarkerKind × Found}
    (isLast : candidates.foldl later best = some last) :
    best = some last ∨ some last ∈ candidates := by
  induction candidates generalizing best with
  | nil => exact .inl isLast
  | cons next candidates ih =>
      rcases ih isLast with isLater | behind
      · have oneOf : later best next = best ∨ later best next = next := by
          unfold later
          split
          · split
            · exact .inr rfl
            · exact .inl rfl
          · exact .inr rfl
          · exact .inl rfl
        rw [isLater] at oneOf
        exact oneOf.imp Eq.symm fun isNext => List.mem_cons.mpr (.inl isNext)
      · exact .inr (List.mem_cons_of_mem next behind)

theorem open?_of_candidate? {tried : MarkerKind}
    (isCandidate : candidate? text tried = some (kind, found)) :
    tried = kind ∧ open? kind text = some found := by
  obtain ⟨isFound, isOpen, same⟩ := Option.map_eq_some_iff.mp isCandidate
  obtain ⟨rfl, rfl⟩ := Prod.mk.inj same
  exact ⟨rfl, (Option.filter_eq_some_iff.mp isOpen).1⟩

/-- The marker that is being typed is a candidate of its kind. -/
theorem candidate?_of_last? (isLast : last? text = some (kind, found)) :
    candidate? text kind = some (kind, found) := by
  have member := (mem_of_foldl_later isLast).resolve_left (by simp)
  obtain ⟨tried, -, isCandidate⟩ := List.mem_map.mp member
  obtain ⟨rfl, -⟩ := open?_of_candidate? isCandidate
  exact isCandidate

theorem open?_of_last? (isLast : last? text = some (kind, found)) :
    open? kind text = some found :=
  (open?_of_candidate? (candidate?_of_last? isLast)).2

theorem exists_parts_of_open? (isOpen : open? kind text = some found) :
    ∃ opening query tail,
      OpenParts kind (text.drop found.position) found.text opening query tail := by
  have isMatch := Pattern.matches_of_firstFrom? isOpen
  rw [List.reverse_nil, List.nil_append, Found.Matches] at isMatch
  exact exists_openParts isMatch

/-! ## The text behind the anchor -/

/-- The line break right before a place of a text, if there is one. -/
def breakBefore (text : List Char) (place : Nat) : List Char :=
  if (text.take place).getLast? = some '\n' then ['\n'] else []

namespace OpenParts

variable {start cursor : Nat}

theorem opening_length (parts : OpenParts kind rest covered opening query tail) :
    opening.length = kind.opening.length := by
  rw [← parts.opening_eq, List.length_map]

theorem opening_ne_nil (parts : OpenParts kind rest covered opening query tail) :
    opening ≠ [] := by
  rintro rfl
  have empty := parts.opening_eq
  cases kind <;> exact absurd empty (by decide)

theorem drop_covered (parts : OpenParts kind rest covered opening query tail) :
    covered.drop kind.opening.length = query := by
  rw [parts.covered_eq, ← parts.opening_length, List.drop_left]

theorem slice_query
    (parts : OpenParts kind (slice text start cursor) covered opening query tail) :
    slice text (start + kind.opening.length) cursor = query ++ tail := by
  rw [slice_add, parts.rest_eq, ← parts.opening_length, List.drop_left]

/-- What is typed of a marker that is not a tag holds no line break. -/
theorem unbroken (parts : OpenParts kind rest covered opening query tail) (notTag : kind ≠ .tag) :
    '\n' ∉ opening ++ query := by
  intro member
  rcases List.mem_append.mp member with inOpening | inQuery
  · have lowered := List.mem_map_of_mem (f := Char.toLower) inOpening
    rw [parts.opening_eq] at lowered
    cases kind <;> exact absurd lowered (by decide)
  · exact absurd (isBlank_of_isOpenCharacter notTag (parts.inside _ inQuery)) (by decide)

theorem tail_eq (parts : OpenParts kind (slice text start cursor) covered opening query tail)
    (notTag : kind ≠ .tag) : tail = breakBefore text cursor := by
  -- the opening is not empty, so the slice ends with the character before the cursor
  have ordered : start ≤ cursor := by
    have size := slice_length_le text start cursor
    have openingSize := List.length_pos_iff.mpr parts.opening_ne_nil
    rw [parts.rest_eq, List.length_append] at size
    omega
  have last : (text.take cursor).getLast? = (opening ++ query ++ tail).getLast? := by
    rw [← take_append_slice text ordered, parts.rest_eq, ← List.append_assoc opening,
      List.getLast?_append_of_ne_nil _ (by simp [parts.opening_ne_nil])]
  rw [breakBefore, last]
  rcases parts.ends with rfl | ⟨rfl, -⟩
  · rw [List.append_nil, if_neg fun isBreak =>
      parts.unbroken notTag (List.mem_of_getLast? isBreak)]
  · rw [List.getLast?_concat, if_pos rfl]

end OpenParts

theorem slice_ofOpen {base cursor : Nat}
    (parts : OpenParts kind (slice text (base + found.position) cursor) found.text opening query
      tail) (notTag : kind ≠ .tag) :
    let context := ofOpen base cursor kind found
    (∀ c ∈ context.query, isBlank c = false) ∧
      slice text context.anchorStart context.anchorStop =
        context.query ++ breakBefore text context.anchorStop := by
  simp only [ofOpen, notTag, false_and, if_false, parts.drop_covered]
  rw [parts.slice_query, parts.tail_eq notTag]
  exact ⟨fun c member => isBlank_of_isOpenCharacter notTag (parts.inside c member), rfl⟩

theorem lastSegment_suffix (text : List Char) : lastSegment text <:+ text := by
  rw [lastSegment, ← List.reverse_prefix, List.reverse_reverse]
  exact List.takeWhile_prefix _

theorem slice_ofOpen_tag {base cursor : Nat}
    (parts : OpenParts .tag (slice text (base + found.position) cursor) found.text opening query
      tail) :
    let context := ofOpen base cursor .tag found
    ∃ blanks, (∀ c ∈ blanks, isBlank c = true) ∧
      slice text context.anchorStart context.anchorStop = context.query ++ blanks := by
  obtain rfl : tail = [] := parts.ends.resolve_right fun isBreak => isBreak.2 rfl
  have behind := parts.slice_query
  rw [List.append_nil] at behind
  simp only [ofOpen, parts.drop_covered, true_and]
  split
  · -- only the last of the tags between commas is replaced
    obtain ⟨earlier, joined⟩ := (trimStart_suffix _).trans (lastSegment_suffix query)
    obtain ⟨blanks, allBlank, trimmed⟩ := exists_trimEnd_append (trimStart (lastSegment query))
    refine ⟨blanks, allBlank, ?_⟩
    have size := congrArg List.length joined
    rw [List.length_append] at size
    have anchor : base + found.position + MarkerKind.tag.opening.length + query.length -
        (trimStart (lastSegment query)).length =
          base + found.position + MarkerKind.tag.opening.length + earlier.length := by omega
    rw [anchor, slice_add, behind, trimmed, ← joined, List.drop_left, joined]
  · exact ⟨[], by simp, by rw [behind, List.append_nil]⟩

theorem kind_ofOpen (base cursor : Nat) (kind : MarkerKind) (found : Found) :
    (ofOpen base cursor kind found).kind = kind := by
  simp only [ofOpen]
  split <;> rfl

/-- A context comes from an open marker that reaches to the cursor. -/
theorem exists_open_of_detect {position : Option Int} {context : CompletionContext}
    (detected : detect text position = some context) :
    ∃ base cursor kind found, context = ofOpen base cursor kind found ∧
      ∃ opening query tail, OpenParts kind (slice text (base + found.position) cursor)
        found.text opening query tail := by
  simp only [detect, Option.map_eq_some_iff, Prod.exists] at detected
  obtain ⟨kind, found, isLast, isContext⟩ := detected
  have parts := exists_parts_of_open? (open?_of_last? isLast)
  rw [← slice_add] at parts
  exact ⟨_, _, kind, found, isContext.symm, parts⟩

theorem exists_detect_of_detectValue {text : String} {cursor : Value}
    {context : CompletionContext}
    (detected : detectValue (.text text) cursor = .ok (some context)) :
    ∃ position, detect text.toList position = some context := by
  simp only [detectValue] at detected
  split at detected
  · exact ⟨none, Except.ok.inj detected⟩
  · cases converted : cursor.toInteger with
    | error _ => simp [converted, Except.map] at detected
    | ok position =>
        rw [converted] at detected
        exact ⟨some position, Except.ok.inj detected⟩

/-- The text that a completion replaces.  For a tag it is the query and the blanks that are
typed behind it; for the other kinds it is the query, in which there are no blanks, and the line
break right before the cursor, if there is one. -/
theorem slice_of_detectValue (text : String) (cursor : Value) (context : CompletionContext)
    (detected : detectValue (.text text) cursor = .ok (some context)) :
    let replaced := slice text.toList context.anchorStart context.anchorStop
    (context.kind ≠ .tag →
      (∀ c ∈ context.query, isBlank c = false) ∧
        replaced = context.query ++ breakBefore text.toList context.anchorStop) ∧
    (context.kind = .tag →
      ∃ blanks, (∀ c ∈ blanks, isBlank c = true) ∧ replaced = context.query ++ blanks) := by
  obtain ⟨position, detected⟩ := exists_detect_of_detectValue detected
  obtain ⟨base, stop, kind, found, rfl, opening, query, tail, parts⟩ :=
    exists_open_of_detect detected
  simp only [kind_ofOpen]
  constructor
  · exact slice_ofOpen parts
  · rintro rfl
    exact slice_ofOpen_tag parts

/-- The second tag of a list, with a blank behind it. -/
theorem slice_of_detectValue_second_tag :
    detectValue (.text "[work, mee ") .null = .ok (some ⟨.tag, "mee".toList, 0, 7, 11⟩) ∧
    ∃ blanks, (∀ c ∈ blanks, isBlank c = true) ∧
      slice "[work, mee ".toList 7 11 = "mee".toList ++ blanks := by
  have detected : detectValue (.text "[work, mee ") .null =
      .ok (some ⟨.tag, "mee".toList, 0, 7, 11⟩) := by decide +kernel
  exact ⟨detected, (slice_of_detectValue _ _ _ detected).2 rfl⟩

/-- A date with a line break between it and the cursor is still being typed. -/
theorem exists_blank_in_replaced :
    ∃ context, detectValue (.text "@to\n") .null = .ok (some context) ∧
      context.kind ≠ .tag ∧
      slice "@to\n".toList context.anchorStart context.anchorStop ≠ context.query ∧
      ∃ c ∈ slice "@to\n".toList context.anchorStart context.anchorStop, isBlank c = true :=
  ⟨⟨.date, "to".toList, 0, 1, 4⟩, by decide +kernel, by decide, by decide, '\n', by decide,
    by decide⟩

end CompletionContext

end InlineMarkers
