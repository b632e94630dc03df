import InlineMarkers.Completion.Source
import InlineMarkers.Proofs.Completion.ReplacedText

/-!
# The window before the cursor

What is being typed is read off the last 256 characters before the cursor, and off
nothing else: the marker that is found there is the one of that piece alone, moved
to its place in the text.  So what stands behind the cursor plays no part, nor does
what stands farther before it.  The marker that is found starts inside the window
with the opening of its kind, and what a completion replaces ends at the cursor.
-/

namespace InlineMarkers

open Text

namespace CompletionContext

variable {kind : MarkerKind} {text other opening query tail : List Char} {found : Found}
  {cursor otherCursor : Option Int} {context : CompletionContext}

/-- The place in a text that a cursor stands for: a cursor outside the text is moved to its
nearer end, and no cursor stands for the end. -/
def cursorPlace (text : List Char) (cursor : Option Int) : Nat :=
  (cursor.map fun c => min c.toNat text.length).getD text.length

/-- The context moved by a number of characters. -/
def shift (distance : Nat) (context : CompletionContext) : CompletionContext :=
  { context with
    triggerStart := context.triggerStart + distance
    anchorStart := context.anchorStart + distance
    anchorStop := context.anchorStop + distance }

theorem cursorPlace_le (text : List Char) (cursor : Option Int) :
    cursorPlace text cursor ≤ text.length := by
  cases cursor with
  | none => exact Nat.le_refl _
  | some c => exact Nat.min_le_right _ _

/-- Text in front of a text moves the places of its cursors. -/
theorem cursorPlace_append (before : List Char) (inside : 0 < cursorPlace text cursor) :
    cursorPlace (before ++ text) (cursor.map (· + (before.length : Int))) =
      cursorPlace text cursor + before.length := by
  cases cursor with
  | none => simp [cursorPlace, Nat.add_comm]
  | some c =>
      simp only [cursorPlace, Option.map_some, Option.getD_some, List.length_append] at inside ⊢
      omega

theorem detectValue_of_usable {text : String} {cursor : Value} {position : Option Int}
    (usable : CompletionSource.optionalInteger cursor = .ok position) :
    detectValue (.text text) cursor = .ok (detect text.toList position) := by
  simp only [CompletionSource.optionalInteger] at usable
  rw [detectValue]
  split at usable
  · rename_i isNull
    rw [if_pos isNull, ← Except.ok.inj usable]
  · rename_i notNull
    rw [if_neg notNull]
    cases converted : cursor.toInteger with
    | error cause => simp [converted, Except.map] at usable
    | ok c =>
        rw [converted] at usable
        rw [← Except.ok.inj usable]
        rfl

/-! ## The window alone -/

theorem detect_eq (text : List Char) (cursor : Option Int) :
    detect text cursor =
      (last? (slice text (cursorPlace text cursor - window) (cursorPlace text cursor))).map
        fun candidate =>
          ofOpen (cursorPlace text cursor - window) (cursorPlace text cursor) candidate.1
            candidate.2 :=
  rfl

theorem ofOpen_add (base stop distance : Nat) (kind : MarkerKind) (found : Found) :
    ofOpen (base + distance) (stop + distance) kind found =
      (ofOpen base stop kind found).shift distance := by
  have segment := lastSegment_suffix (found.text.drop kind.opening.length)
  have size := ((trimStart_suffix _).trans segment).length_le
  simp only [ofOpen, shift]
  split <;> simp only [CompletionContext.mk.injEq, true_and, and_true] <;> omega

/-- All of a short text counts. -/
theorem detect_of_short (short : text.length ≤ window) :
    detect text none =
      (last? text).map fun candidate => ofOpen 0 text.length candidate.1 candidate.2 := by
  have base : text.length - window = 0 := by omega
  simp only [detect, Option.map_none, Option.getD_none, base, slice_zero_length]

/-- What is being typed is what is being typed at the end of the window, in its place. -/
theorem detect_eq_window (text : List Char) (cursor : Option Int) :
    detect text cursor =
      (detect (slice text (cursorPlace text cursor - window) (cursorPlace text cursor))
        none).map (shift (cursorPlace text cursor - window)) := by
  rw [detect_eq]
  have inside := cursorPlace_le text cursor
  generalize cursorPlace text cursor = place at inside ⊢
  generalize isBase : place - window = base
  have size : (slice text base place).length = place - base := by
    rw [slice, List.length_take, List.length_drop]
    omega
  rw [detect_of_short (by omega), Option.map_map]
  refine congrArg (Option.map · _) (funext fun candidate => ?_)
  rw [Function.comp_apply, ← ofOpen_add, Nat.zero_add, size, Nat.sub_add_cancel (by omega)]

/-- The text behind the cursor plays no part. -/
theorem detect_of_take_eq (samePlace : cursorPlace other otherCursor = cursorPlace text cursor)
    (same : other.take (cursorPlace text cursor) = text.take (cursorPlace text cursor)) :
    detect other otherCursor = detect text cursor := by
  rw [detect_eq, detect_eq, samePlace, ← slice_take other, same, slice_take]

/-- Where the window is full, the text before it plays no part. -/
theorem detect_append (before : List Char) (full : window ≤ cursorPlace text cursor) :
    detect (before ++ text) (cursor.map (· + (before.length : Int))) =
      (detect text cursor).map (shift before.length) := by
  have inside : 0 < cursorPlace text cursor := Nat.lt_of_lt_of_le (by decide) full
  rw [detect_eq, detect_eq, cursorPlace_append before inside]
  generalize cursorPlace text cursor = place at full ⊢
  rw [Nat.sub_add_comm full]
  generalize place - window = base
  rw [Nat.add_comm base, Nat.add_comm place, slice_append_left, Option.map_map]
  refine congrArg (Option.map · _) (funext fun candidate => ?_)
  rw [Function.comp_apply, ← ofOpen_add, Nat.add_comm before.length, Nat.add_comm before.length]

/-! ## Where a context stands -/

/-- A context that stands in a text before a place: it starts in the window with the opening of
its kind, in any case, and what a completion replaces ends at the place. -/
structure StandsBefore (text : List Char) (place : Nat) (context : CompletionContext) : Prop where
  inWindow : place - window ≤ context.triggerStart
  opens : context.triggerStart < context.anchorStart
  ordered : context.anchorStart ≤ context.anchorStop
  stops : context.anchorStop = place
  opening_eq : (slice text context.triggerStart
    (context.triggerStart + context.kind.opening.length)).map Char.toLower = context.kind.opening

theorem standsBefore_ofOpen {base place : Nat} (inWindow : place - window ≤ base)
    (parts : OpenParts kind (slice text (base + found.position) place) found.text opening query
      tail) : (ofOpen base place kind found).StandsBefore text place := by
  have typed := parts.drop_covered
  have size := congrArg List.length parts.rest_eq
  have openingSize := parts.opening_length
  have openingPos := List.length_pos_iff.mpr parts.opening_ne_nil
  have bound := slice_length_le text (base + found.position) place
  simp only [List.length_append] at size
  have begins : slice text (base + found.position)
      (base + found.position + kind.opening.length) = opening := by
    have covered := congrArg (List.take kind.opening.length) parts.rest_eq
    rwa [slice, List.take_take, Nat.min_eq_left (by omega), List.take_left' openingSize,
      ← Nat.add_sub_cancel_left (base + found.position) kind.opening.length] at covered
  have segment := ((trimStart_suffix _).trans (lastSegment_suffix query)).length_le
  simp only [ofOpen, typed]
  split
  · rename_i isList
    exact ⟨by simp only; omega, by simp only; omega, by simp only; omega, rfl,
      by rw [begins, parts.opening_eq]⟩
  · exact ⟨by simp only; omega, by simp only; omega, by simp only; omega, rfl,
      by rw [begins, parts.opening_eq]⟩

theorem standsBefore_of_detect (detected : detect text cursor = some context) :
    context.StandsBefore text (cursorPlace text cursor) := by
  rw [detect_eq] at detected
  obtain ⟨⟨kind, found⟩, isLast, rfl⟩ := Option.map_eq_some_iff.mp detected
  obtain ⟨opening, query, tail, parts⟩ := exists_parts_of_open? (open?_of_last? isLast)
  rw [← slice_add] at parts
  exact standsBefore_ofOpen (Nat.le_refl _) parts

/-- What is being typed at a cursor stands in the window before it, and depends on the window
alone: another text behind the cursor changes nothing, and neither does text in front of a full
window, except that it moves the places. -/
theorem detect_local (text : String) (cursor : Value) {position : Option Int}
    (usable : CompletionSource.optionalInteger cursor = .ok position) :
    let place := cursorPlace text.toList position
    (∀ context, detectValue (.text text) cursor = .ok (some context) →
      context.StandsBefore text.toList place) ∧
    (∀ (other : String) (otherCursor : Value) (otherPosition : Option Int),
      CompletionSource.optionalInteger otherCursor = .ok otherPosition →
      cursorPlace other.toList otherPosition = place →
      other.toList.take place = text.toList.take place →
      detectValue (.text other) otherCursor = detectValue (.text text) cursor) ∧
    detectValue (.text text) cursor =
      .ok ((detect (slice text.toList (place - window) place) none).map (shift (place - window))) ∧
    (window ≤ place → ∀ (before : String) (moved : Value),
      CompletionSource.optionalInteger moved =
        .ok (position.map (· + (before.toList.length : Int))) →
      detectValue (.text (before ++ text)) moved =
        (detectValue (.text text) cursor).map (Option.map (shift before.toList.length))) := by
  rw [detectValue_of_usable usable]
  refine ⟨fun context detected => standsBefore_of_detect (Except.ok.inj detected), ?_, ?_, ?_⟩
  · intro other otherCursor otherPosition otherUsable samePlace same
    rw [detectValue_of_usable otherUsable, detect_of_take_eq samePlace same]
  · exact congrArg Except.ok (detect_eq_window text.toList position)
  · intro full before moved movedUsable
    rw [detectValue_of_usable movedUsable, String.toList_append, detect_append before.toList full]
    rfl

/-- An open bracket and a comma far before the cursor change nothing but the places. -/
theorem detect_local_behind_long_text :
    ∃ text : String, CompletionSource.optionalInteger (.int 303) = .ok (some 303) ∧
      window ≤ cursorPlace text.toList (some 303) ∧
      detectValue (.text text) (.int 303) = .ok (some ⟨.date, "to".toList, 300, 301, 303⟩) ∧
      detectValue (.text ("[a, " ++ text)) (.int 307) =
        .ok (some ⟨.date, "to".toList, 304, 305, 307⟩) := by
  let long := List.replicate 300 'x' ++ "@to".toList
  have usable : CompletionSource.optionalInteger (.int 303) = .ok (some 303) := rfl
  have full : window ≤ cursorPlace (String.ofList long).toList (some 303) := by
    rw [String.toList_ofList]
    decide +kernel
  have detected : detectValue (.text (String.ofList long)) (.int 303) =
      .ok (some ⟨.date, "to".toList, 300, 301, 303⟩) := by
    rw [detectValue_of_usable usable, String.toList_ofList]
    decide +kernel
  have moved := (detect_local _ (.int 303) usable).2.2.2 full "[a, " (.int 307) rfl
  rw [detected] at moved
  exact ⟨String.ofList long, usable, full, detected, moved⟩

end CompletionContext

end InlineMarkers
