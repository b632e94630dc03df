import InlineMarkers.Marker.Scanner
import InlineMarkers.Proofs.Marker.LexemeReading

/-!
# A turn of the scanner is a step of the walk

The scanner looks up the next opening bracket ahead of its cursor and gives up
on brackets for good when one of them has no closing bracket behind it.
`Scan.Follows` is what holds of its state between two turns: the bracket is the
first one ahead as soon as it is looked up again where that is due, and nothing
that is given up could still close.  Under it every turn does one step of the
walk of the tokenizer, whatever the limit is.
-/

namespace InlineMarkers

open Text Tokenizer

variable {limit position : Nat} {text rest : List Char} {lexeme : Lexeme}

/-! ## Places ahead of the cursor -/

/-- The first lexeme of a text has unread places before it. -/
theorem firstFrom?_eq_some {found : Nat}
    (isFirst : Lexeme.firstFrom? limit position text = some (found, lexeme)) :
    ∃ gap, found = position + gap ∧ Lexeme.at? limit (text.drop gap) = some lexeme ∧
      ∀ index < gap, Lexeme.at? limit (text.drop index) = none := by
  induction text generalizing position with
  | nil => simp [Lexeme.firstFrom?] at isFirst
  | cons c rest ih =>
      rw [Lexeme.firstFrom?] at isFirst
      split at isFirst
      · rename_i here read
        obtain ⟨rfl, rfl⟩ := Prod.mk.inj (Option.some.inj isFirst)
        exact ⟨0, rfl, read, by simp⟩
      · rename_i unread
        obtain ⟨gap, rfl, read, unreadBefore⟩ := ih isFirst
        refine ⟨gap + 1, by omega, read, ?_⟩
        rintro (_ | index) inside
        · exact unread
        · exact unreadBefore index (by omega)

theorem firstFrom?_eq_none (unfound : Lexeme.firstFrom? limit position text = none) (index : Nat) :
    Lexeme.at? limit (text.drop index) = none := by
  induction text generalizing position index with
  | nil => rw [List.drop_nil]; rfl
  | cons c rest ih =>
      rw [Lexeme.firstFrom?] at unfound
      split at unfound
      · simp at unfound
      · rename_i unread
        cases index with
        | zero => exact unread
        | succ index => exact ih unfound index

theorem firstBracket_cons (position : Nat) (c : Char) (rest : List Char) :
    Scan.firstBracket position (c :: rest) =
      if c = '[' then some position else Scan.firstBracket (position + 1) rest := by
  by_cases isBracket : c = '['
  · simp [Scan.firstBracket, isBracket, List.findIdx?_cons]
  · simp only [Scan.firstBracket, List.findIdx?_cons, beq_iff_eq, isBracket, if_false,
      Option.map_map]
    congr 1
    funext index
    simp only [Function.comp_apply]
    omega

theorem firstBracket_eq_some {bracket : Nat}
    (isFirst : Scan.firstBracket position text = some bracket) :
    ∃ gap rest, bracket = position + gap ∧ text.drop gap = '[' :: rest ∧
      ∀ index < gap, ∀ after, text.drop index ≠ '[' :: after := by
  induction text generalizing position with
  | nil => simp [Scan.firstBracket] at isFirst
  | cons c rest ih =>
      rw [firstBracket_cons] at isFirst
      split at isFirst
      · rename_i isBracket
        obtain rfl := Option.some.inj isFirst
        exact ⟨0, rest, rfl, by simp [isBracket], by simp⟩
      · rename_i notBracket
        obtain ⟨gap, after, rfl, here, notBefore⟩ := ih isFirst
        refine ⟨gap + 1, after, by omega, here, ?_⟩
        rintro (_ | index) inside after
        · simp [notBracket]
        · exact notBefore index (by omega) after

theorem firstBracket_eq_none (unfound : Scan.firstBracket position text = none) (index : Nat)
    (after : List Char) : text.drop index ≠ '[' :: after := by
  induction text generalizing position index with
  | nil => simp
  | cons c rest ih =>
      rw [firstBracket_cons] at unfound
      split at unfound
      · simp at unfound
      · rename_i notBracket
        cases index with
        | zero => simp [notBracket]
        | succ index => exact ih unfound index

/-- The first bracket stays the first one until the cursor moves beyond it. -/
theorem firstBracket_drop (count : Nat)
    (ahead : ∀ bracket ∈ Scan.firstBracket position text, position + count ≤ bracket) :
    Scan.firstBracket (position + count) (text.drop count) =
      Scan.firstBracket position text := by
  induction count generalizing position text with
  | zero => rfl
  | succ count ih =>
      cases text with
      | nil => simp [Scan.firstBracket]
      | cons c rest =>
          rw [firstBracket_cons] at ahead ⊢
          by_cases isBracket : c = '['
          · have := ahead position (by simp [isBracket])
            omega
          · rw [if_neg isBracket] at ahead ⊢
            have later : Scan.firstBracket (position + 1 + count) (rest.drop count) =
                Scan.firstBracket (position + 1) rest := ih fun bracket member => by
              have := ahead bracket member
              omega
            rw [List.drop_succ_cons, ← later, Nat.add_right_comm, Nat.add_assoc]

/-! ## The state between two turns -/

namespace Scan

variable {state next : Scan} {marker : Option Marker}

/-- The scan with the bracket looked up at the cursor. -/
def lookUp (state : Scan) : Scan :=
  { state with bracket := firstBracket state.position state.rest }

/-- What holds of a scan of a text whose bracket was just looked up.  It only gives up on
brackets when none of the rest closes. -/
structure Ready (text : List Char) (state : Scan) : Prop where
  bracket_eq : state.bracket = firstBracket state.position state.rest
  rest_eq : state.rest = text.drop state.position
  noneClosed : state.closable = false → ∀ index, ¬StartsClosed (state.rest.drop index)

/-- What holds of a scan of a text between two turns.  The bracket that was looked up is the
first one ahead of the cursor once it is looked up again where that is due. -/
structure Follows (text : List Char) (state : Scan) : Prop where
  inside : state.position ≤ text.length
  refreshed : state.refreshBracket = state.lookUp
  ready : state.lookUp.Ready text

theorem follows_start (text : List Char) : (start text).Follows text where
  inside := Nat.zero_le _
  refreshed := by
    simp only [refreshBracket, start, Nat.not_lt_zero, if_false]
    split <;> rfl
  ready := ⟨rfl, rfl, by simp [lookUp, start]⟩

theorem Follows.rest_eq (follows : state.Follows text) : state.rest = text.drop state.position :=
  follows.ready.rest_eq

namespace Ready

/-- Moving the cursor keeps what holds of a scan. -/
theorem moveTo {place : Nat} (ready : state.Ready text) (later : state.position ≤ place)
    (inside : place ≤ text.length) : (state.moveTo place).Follows text := by
  obtain ⟨count, rfl⟩ := Nat.exists_eq_add_of_le later
  refine ⟨inside, ?_, rfl, ?_, ?_⟩
  · have ahead : (∀ bracket ∈ firstBracket state.position state.rest,
        state.position + count ≤ bracket) →
        firstBracket (state.position + count) (state.rest.drop count) =
          firstBracket state.position state.rest := firstBracket_drop count
    simp only [Scan.moveTo, refreshBracket, lookUp, Nat.add_sub_cancel_left]
    cases found : state.bracket with
    | none =>
        rw [ahead (by simp [← ready.bracket_eq, found]), ← ready.bracket_eq, found]
    | some bracket =>
        by_cases behind : bracket < state.position + count
        · simp only [if_pos behind]
        · simp only [if_neg behind]
          rw [ahead (by simp only [← ready.bracket_eq, found, Option.mem_some_iff]; omega),
            ← ready.bracket_eq, found]
  · simp only [Scan.moveTo, lookUp, ready.rest_eq, List.drop_drop, Nat.add_sub_cancel_left]
  · intro gaveUp index
    simp only [Scan.moveTo, lookUp, List.drop_drop]
    exact ready.noneClosed gaveUp _

/-- A scan that gives up on brackets when none of the rest closes. -/
theorem giveUp (ready : state.Ready text)
    (noneLeft : ∀ index, ¬StartsClosed (state.rest.drop index)) :
    { state with closable := false }.Ready text :=
  ⟨ready.bracket_eq, ready.rest_eq, fun _ => noneLeft⟩

theorem refreshBracket_eq (ready : state.Ready text) : state.refreshBracket = state := by
  cases isFirst : firstBracket state.position state.rest with
  | none => simp [refreshBracket, ready.bracket_eq, isFirst]
  | some bracket =>
      obtain ⟨gap, after, rfl, -⟩ := firstBracket_eq_some isFirst
      have ahead : ¬state.position + gap < state.position := by omega
      simp only [refreshBracket, ready.bracket_eq, isFirst, if_neg ahead]

end Ready

/-- A turn as a step of the walk: over places at which nothing is read to a token, whose
marker is what the turn reports, and behind it. -/
def Advances (text : List Char) (state : Scan) (marker : Option Marker) (next : Scan) : Prop :=
  ∃ gap lexeme, Silent gap state.rest ∧ read? (state.rest.drop gap) = some lexeme ∧
    marker.toList = report (state.position + gap) lexeme ∧
    next.position = state.position + gap + lexeme.length ∧ next.Follows text

/-- A place at which nothing is read within the limit is unread unless a tag closes there. -/
theorem silent_of_unread {gap : Nat}
    (unread : ∀ index < gap, Lexeme.at? limit (rest.drop index) = none)
    (notClosed : ∀ index < gap, ¬StartsClosed (rest.drop index)) : Silent gap rest :=
  fun index before => read?_of_at?_eq_none (unread index before) (notClosed index before)

/-- Taking the first lexeme is a step of the walk when no closed bracket is skipped. -/
theorem Ready.takeLexeme_advances (ready : state.Ready text)
    (notSkipped : ∀ found ∈ Lexeme.firstFrom? limit state.position state.rest, ∀ index,
      state.position + index < found.1 → ¬StartsClosed (state.rest.drop index))
    (taken : state.takeLexeme (Lexeme.firstFrom? limit state.position state.rest) =
      some (marker, next)) :
    state.Advances text marker next := by
  cases found : Lexeme.firstFrom? limit state.position state.rest with
  | none => simp [found, takeLexeme] at taken
  | some pair =>
      obtain ⟨place, lexeme⟩ := pair
      obtain ⟨gap, rfl, read, unread⟩ := firstFrom?_eq_some found
      simp only [found, takeLexeme, Option.some.injEq, Prod.mk.injEq] at taken
      obtain ⟨rfl, rfl⟩ := taken
      have isToken := read?_of_at? read
      have size := (read?_bounds isToken).2
      have nonempty := length_pos_of_read? isToken
      have notClosed : ∀ index < gap, ¬StartsClosed (state.rest.drop index) := fun index before =>
        notSkipped _ found index (Nat.add_lt_add_left before _)
      refine ⟨gap, lexeme, silent_of_unread unread notClosed, isToken, ?_, rfl,
        ready.moveTo (by omega) ?_⟩
      · simp only [report]
        split <;> rfl
      · simp only [ready.rest_eq, List.length_drop] at size
        omega

/-- No bracket ahead of the cursor closes if the first one does not. -/
theorem noneClosed_of_longTag? {bracket : Nat}
    (isFirst : firstBracket state.position state.rest = some bracket)
    (noTag : state.longTag? bracket = none) (index : Nat) :
    ¬StartsClosed (state.rest.drop index) := by
  rintro ⟨inner, here, closes⟩
  obtain ⟨gap, after, rfl, atBracket, notBefore⟩ := firstBracket_eq_some isFirst
  have notEarlier : gap ≤ index := by
    by_contra earlier
    exact notBefore index (by omega) inner here
  have noClosing : ']' ∉ state.rest.drop (gap + 1) := by
    simpa [longTag?, Nat.add_assoc, Nat.add_sub_cancel_left] using noTag
  apply noClosing
  have innerEq : inner = state.rest.drop (index + 1) := by
    rw [← List.drop_drop, here, List.drop_one, List.tail_cons]
  rw [innerEq] at closes
  exact List.mem_of_mem_drop (i := index - gap) (by
    rw [List.drop_drop]
    convert closes using 2
    omega)

/-- The tag of the first bracket, when nothing before it is read, is a step of the walk. -/
theorem Ready.longTag_advances {bracket : Nat} {tag : Marker} (ready : state.Ready text)
    (isFirst : firstBracket state.position state.rest = some bracket)
    (skipped : ∀ found ∈ Lexeme.firstFrom? limit state.position state.rest, bracket < found.1)
    (isTag : state.longTag? bracket = some tag) :
    state.Advances text (some tag) (state.moveTo tag.markerStop) := by
  obtain ⟨gap, after, rfl, atBracket, notBefore⟩ := firstBracket_eq_some isFirst
  have behind : state.rest.drop (state.position + gap + 1 - state.position) = after := by
    rw [Nat.add_assoc, Nat.add_sub_cancel_left, ← List.drop_drop, atBracket, List.drop_one,
      List.tail_cons]
  simp only [longTag?, behind, Option.ite_none_right_eq_some, Option.some.injEq] at isTag
  obtain ⟨closes, rfl⟩ := isTag
  have unread : ∀ index < gap, Lexeme.at? limit (state.rest.drop index) = none := by
    intro index before
    cases found : Lexeme.firstFrom? limit state.position state.rest with
    | none => exact firstFrom?_eq_none found index
    | some pair =>
        obtain ⟨place, lexeme⟩ := pair
        obtain ⟨later, rfl, -, unreadBefore⟩ := firstFrom?_eq_some found
        have := skipped _ found
        exact unreadBefore index (by omega)
  have notClosed : ∀ index < gap, ¬StartsClosed (state.rest.drop index) := by
    rintro index before ⟨inner, here, -⟩
    exact notBefore index before inner here
  have isToken : read? (state.rest.drop gap) =
      some ⟨.tag, 1, after.takeWhile (· != ']'), 1⟩ := by
    rw [atBracket, read?, if_pos rfl, Tokenizer.tag?, if_pos closes]
  have size := (read?_bounds isToken).2
  refine ⟨gap, _, silent_of_unread unread notClosed, isToken, rfl, rfl,
    ready.moveTo ?_ ?_⟩
  · simp only [Lexeme.toMarker]
    omega
  · have nonempty := length_pos_of_read? isToken
    simp only [ready.rest_eq, List.length_drop] at size
    simp only [Lexeme.toMarker]
    omega

theorem skippedBracket?_eq_some {found : Option (Nat × Lexeme)} {bracket : Nat}
    (skipped : state.skippedBracket? found = some bracket) :
    state.bracket = some bracket ∧ ∀ pair ∈ found, bracket < pair.1 := by
  simp only [skippedBracket?, Option.ite_none_right_eq_some, Option.filter_eq_some_iff] at skipped
  obtain ⟨-, isBracket, ahead⟩ := skipped
  refine ⟨isBracket, ?_⟩
  rintro pair rfl
  simpa using ahead

theorem skippedBracket?_eq_none {found : Option (Nat × Lexeme)} (closable : state.closable = true)
    (notSkipped : state.skippedBracket? found = none) :
    ∀ bracket ∈ state.bracket, ∃ pair ∈ found, pair.1 ≤ bracket := by
  intro bracket isBracket
  simp only [skippedBracket?, closable, if_true, Option.filter_eq_none_iff] at notSkipped
  have notAhead := notSkipped bracket isBracket
  cases found with
  | none => simp at notAhead
  | some pair => exact ⟨pair, rfl, by simpa using notAhead⟩

/-- A closed bracket is never skipped without a turn that closes it. -/
theorem Ready.notClosed {found : Option (Nat × Lexeme)} (ready : state.Ready text)
    (notSkipped : state.skippedBracket? found = none) (index : Nat)
    (before : ∀ pair ∈ found, state.position + index < pair.1) :
    ¬StartsClosed (state.rest.drop index) := by
  cases closable : state.closable with
  | false => exact ready.noneClosed closable index
  | true =>
      rintro ⟨inner, here, -⟩
      cases isFirst : firstBracket state.position state.rest with
      | none => exact firstBracket_eq_none isFirst index inner here
      | some bracket =>
          obtain ⟨pair, isFound, notAfter⟩ := skippedBracket?_eq_none closable notSkipped bracket
            (by rw [ready.bracket_eq, isFirst, Option.mem_some_iff])
          have inside := before pair isFound
          obtain ⟨gap, after, rfl, -, notBefore⟩ := firstBracket_eq_some isFirst
          exact notBefore index (by omega) inner here

/-- A turn of a scan whose bracket was just looked up is a step of the walk. -/
theorem Ready.step_advances (ready : state.Ready text)
    (stepped : state.step limit = some (marker, next)) : state.Advances text marker next := by
  simp only [step, ready.refreshBracket_eq] at stepped
  split at stepped
  · rename_i notSkipped
    refine ready.takeLexeme_advances (fun found isFound index before => ?_) stepped
    refine ready.notClosed notSkipped index fun pair isPair => ?_
    rwa [Option.mem_unique isPair isFound]
  · rename_i bracket skipped
    obtain ⟨isBracket, ahead⟩ := skippedBracket?_eq_some skipped
    rw [ready.bracket_eq] at isBracket
    split at stepped
    · rename_i tag isTag
      obtain ⟨rfl, rfl⟩ := Prod.mk.inj (Option.some.inj stepped)
      exact ready.longTag_advances isBracket ahead isTag
    · rename_i noTag
      have noneLeft := noneClosed_of_longTag? isBracket noTag
      exact (ready.giveUp noneLeft).takeLexeme_advances (fun _ _ index _ => noneLeft index) stepped

theorem firstFrom?_eq_none_of_takeLexeme {found : Option (Nat × Lexeme)}
    (stopped : state.takeLexeme found = none) : found = none := by
  cases found with
  | none => rfl
  | some pair => simp [takeLexeme] at stopped

/-- A scan whose bracket was just looked up only ends where nothing more is read. -/
theorem Ready.silent_of_step (ready : state.Ready text) (stopped : state.step limit = none)
    (index : Nat) : read? (state.rest.drop index) = none := by
  simp only [step, ready.refreshBracket_eq] at stopped
  split at stopped
  · rename_i notSkipped
    have unfound := firstFrom?_eq_none_of_takeLexeme stopped
    refine read?_of_at?_eq_none (firstFrom?_eq_none unfound index) ?_
    refine ready.notClosed notSkipped index ?_
    simp [unfound]
  · rename_i bracket skipped
    obtain ⟨isBracket, -⟩ := skippedBracket?_eq_some skipped
    rw [ready.bracket_eq] at isBracket
    split at stopped
    · simp at stopped
    · rename_i noTag
      have unfound := firstFrom?_eq_none_of_takeLexeme stopped
      exact read?_of_at?_eq_none (firstFrom?_eq_none unfound index)
        (noneClosed_of_longTag? isBracket noTag index)

theorem Follows.step_eq (follows : state.Follows text) :
    state.step limit = state.lookUp.step limit := by
  have again : state.lookUp.refreshBracket = state.lookUp := follows.ready.refreshBracket_eq
  simp only [step, follows.refreshed, again]
  rfl

/-- Every turn of a scan is a step of the walk. -/
theorem step_advances (follows : state.Follows text)
    (stepped : state.step limit = some (marker, next)) : state.Advances text marker next := by
  rw [follows.step_eq] at stepped
  exact follows.ready.step_advances stepped

/-- A scan only ends where nothing more is read. -/
theorem silent_of_step (follows : state.Follows text) (stopped : state.step limit = none)
    (index : Nat) : read? (state.rest.drop index) = none := by
  rw [follows.step_eq] at stopped
  exact follows.ready.silent_of_step stopped index

end Scan

end InlineMarkers
