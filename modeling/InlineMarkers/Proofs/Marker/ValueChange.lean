import InlineMarkers.Proofs.Marker.Splice

/-!
# Changing the value of a marker

A value of its kind can take the place of a marker's value without any effect on
the other markers: those before it stay where they are, and those behind it move
by the difference of the lengths.  Dates are left out, because the characters
that go on with a date depend on how its value begins.
-/

namespace InlineMarkers

open Text Lexeme Tokenizer

namespace Marker

/-- The marker with another value and the same characters around it. -/
def withValue (value : List Char) (marker : Marker) : Marker :=
  { marker with
    value
    stop := marker.start + value.length
    markerStop := marker.start + value.length + (marker.markerStop - marker.stop) }

/-- The marker moved by a distance to either side. -/
def move (distance : Int) (marker : Marker) : Marker :=
  { marker with
    start := (marker.start + distance).toNat
    stop := (marker.stop + distance).toNat
    markerStart := (marker.markerStart + distance).toNat
    markerStop := (marker.markerStop + distance).toNat }

theorem move_shift {near far : Nat} {distance : Int} (apart : (far : Int) = near + distance)
    (marker : Marker) : (marker.shift near).move distance = marker.shift far := by
  simp only [move, shift, Marker.mk.injEq, true_and]
  omega

end Marker

namespace MarkerKind

/-- Whether a text can take the place of the value of a marker of a kind. -/
def Admits : MarkerKind → List Char → Prop
  | .tag, value => ']' ∉ value
  | .color, value => ∀ c ∈ value, isColorCharacter c = true
  | .priority, value => value ≠ [] ∧ (∀ c ∈ value, c.isAlpha = true) ∧ isHexWord value = false
  | .assignee, value => value ≠ [] ∧ ∀ c ∈ value, isAssigneeCharacter c = true
  | .date, _ => False

end MarkerKind

namespace Lexeme

/-- The lexeme with another value. -/
def withValue (value : List Char) (lexeme : Lexeme) : Lexeme :=
  { lexeme with value }

theorem toMarker_withValue (position : Nat) (value : List Char) (lexeme : Lexeme) :
    (lexeme.withValue value).toMarker position = (lexeme.toMarker position).withValue value := by
  simp only [withValue, toMarker, Marker.withValue, length, Marker.mk.injEq, true_and]
  omega

theorem isReported_withValue {value : List Char} {lexeme : Lexeme}
    (admits : lexeme.kind.Admits value) : (lexeme.withValue value).isReported = true := by
  cases kind : lexeme.kind <;> simp_all [MarkerKind.Admits, withValue, isReported]

end Lexeme

namespace Tokenizer

variable {text value : List Char} {marker : Marker} {lexeme : Lexeme}

/-- A token with another value of its kind in the place of its own. -/
theorem Token.exists_withValue {body : List Char} {more : Char → Bool}
    (token : Token lexeme body more) (admits : lexeme.kind.Admits value) :
    ∃ changed, Token (lexeme.withValue value) changed more ∧
      changed = body.take lexeme.lead ++ value ++ body.drop (lexeme.lead + lexeme.value.length) ∧
      changed.head? = body.head? ∧ (']' ∈ changed → ']' ∈ body) := by
  cases token with
  | @tag old unclosed =>
      exact ⟨'[' :: (value ++ [']']), .tag admits, by simp [Nat.add_comm 1], rfl, by simp⟩
  | @color opening old size starts inside =>
      obtain ⟨c, tail, rfl⟩ : ∃ c tail, opening = c :: tail :=
        List.exists_cons_of_length_pos (by omega)
      have noBracket : ']' ∉ value := fun member => absurd (admits _ member) (by decide)
      refine ⟨c :: tail ++ value, .color size starts admits, ?_, by simp, ?_⟩
      · rw [List.take_left' size, ← size, ← List.length_append, List.drop_length,
          List.append_nil]
      · intro member
        rcases List.mem_append.mp member with inOpening | inValue
        · exact List.mem_append_left old inOpening
        · exact absurd inValue noBracket
  | @priority old nonempty inside =>
      have noBracket : ']' ∉ value := fun member => absurd (admits.2.1 _ member) (by decide)
      exact ⟨'#' :: value, .priority admits.1 admits.2.1, by simp [Nat.add_comm 1], rfl,
        by simp [noBracket]⟩
  | named starts inside => exact absurd admits id
  | numeric starts inside => exact absurd admits id
  | @assignee old nonempty inside =>
      have noBracket : ']' ∉ value := fun member => absurd (admits.2 _ member) (by decide)
      exact ⟨'+' :: value, .assignee admits.1 admits.2, by simp [Nat.add_comm 1], rfl,
        by simp [noBracket]⟩
  | @addressed old host nonempty inside unbroken =>
      have noBracket : ']' ∉ value := fun member => absurd (admits.2 _ member) (by decide)
      exact ⟨'+' :: (value ++ '@' :: host), .addressed admits.1 admits.2 unbroken,
        by simp [Nat.add_comm 1], rfl, by simp +contextual [noBracket]⟩

/-- The markers of a text whose marker gets another value of its kind: only the marker
changes, and those behind it move. -/
theorem tokenize_withValue (member : marker ∈ tokenize text)
    (admits : marker.kind.Admits value) :
    ∃ earlier later, tokenize text = earlier ++ marker :: later ∧
      tokenize (text.take marker.start ++ value ++ text.drop marker.stop) =
        earlier ++ marker.withValue value ::
          later.map (Marker.move (value.length - marker.value.length)) := by
  obtain ⟨earlier, place, arrived, lexeme, walk, found, reported, rfl⟩ :=
    exists_passes_of_mem member
  obtain ⟨before, rfl, rfl⟩ := walk.exists_before
  obtain ⟨body, rest, more, token, rfl, ends⟩ := read?_eq_some_iff.mp found
  obtain ⟨changed, tokenNew, changedEq, sameHead, closing⟩ := token.exists_withValue admits
  simp only [Nat.zero_add] at walk ⊢
  have size := token.length_eq
  have parts : lexeme.length = lexeme.lead + lexeme.value.length + lexeme.trail := rfl
  refine ⟨earlier, walkFrom (before.length + lexeme.length) rest, ?_, ?_⟩
  · have whole := walk.walkFrom_eq
    rw [walkFrom_of_some found, ← size, List.drop_left, report, if_pos reported, size] at whole
    exact whole
  have edited : (before ++ (body ++ rest)).take (lexeme.toMarker before.length).start ++ value ++
      (before ++ (body ++ rest)).drop (lexeme.toMarker before.length).stop =
        (before ++ (body ++ rest)).take before.length ++ (changed ++ rest) := by
    simp only [Lexeme.toMarker]
    rw [List.take_left, changedEq, List.take_length_add_append, Nat.add_assoc before.length,
      ← List.drop_drop, List.drop_left, List.take_append_of_le_length (by omega),
      List.drop_append_of_le_length (by omega)]
    simp only [List.append_assoc]
  have foundNew := read?_of_token tokenNew ends
  have headNew : (changed ++ rest).head? = (body ++ rest).head? := by
    rw [List.head?_append, List.head?_append, sameHead]
  have closingNew : ']' ∈ changed ++ rest → ']' ∈ body ++ rest := by
    simp only [List.mem_append]
    exact Or.imp_left closing
  have rescanned := walk.tokenize_token found foundNew headNew closingNew
  rw [edited, rescanned, report, if_pos (Lexeme.isReported_withValue admits),
    Lexeme.toMarker_withValue, ← tokenNew.length_eq, List.drop_left]
  congr 1
  rw [List.singleton_append]
  congr 1
  rw [walkFrom_eq_map_shift (before.length + lexeme.length), List.map_map,
    walkFrom_eq_map_shift (before.length + changed.length)]
  refine List.map_congr_left fun later _ => ?_
  have newSize := tokenNew.length_eq
  have newParts : (lexeme.withValue value).length =
    lexeme.lead + value.length + lexeme.trail := rfl
  refine (Marker.move_shift ?_ later).symm
  simp only [Lexeme.toMarker]
  omega

end Tokenizer

end InlineMarkers
