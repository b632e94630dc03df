import InlineMarkers.Proofs.Marker.Tokenizer

/-!
# Walks over a text

How a walk of the tokenizer is put together from its parts.  It passes over
places at which nothing is read, it only sees the text from its place on, and it
can be cut wherever it arrives.  `Passes` records such a part of a walk: where it
starts, the markers that it reports, and where it arrives.
-/

namespace InlineMarkers.Tokenizer

variable {position place count : Nat} {text rest : List Char} {lexeme : Lexeme}

theorem walkFrom_nil (position : Nat) : walkFrom position [] = [] := by
  rw [walkFrom]

theorem walkFrom_of_none {c : Char} (unread : read? (c :: rest) = none) :
    walkFrom position (c :: rest) = walkFrom (position + 1) rest := by
  rw [walkFrom, unread]

/-- Going on behind a token is going on from its first character by one less. -/
theorem drop_length_of_read? {c : Char} (found : read? (c :: rest) = some lexeme) :
    (c :: rest).drop lexeme.length = rest.drop (lexeme.length - 1) := by
  have nonempty := length_pos_of_read? found
  rw [← Nat.sub_add_cancel nonempty, List.drop_succ_cons, Nat.add_sub_cancel]

theorem walkFrom_of_some (found : read? text = some lexeme) :
    walkFrom position text =
      report position lexeme ++ walkFrom (position + lexeme.length) (text.drop lexeme.length) := by
  cases text with
  | nil => simp [read?] at found
  | cons c rest =>
      rw [walkFrom, found, drop_length_of_read? found]

/-- Nothing is read at the first places of a text. -/
def Silent (count : Nat) (text : List Char) : Prop :=
  ∀ index < count, read? (text.drop index) = none

theorem walkFrom_of_silent (silent : Silent count text) :
    walkFrom position text = walkFrom (position + count) (text.drop count) := by
  induction count generalizing position text with
  | zero => simp
  | succ count ih =>
      cases text with
      | nil => simp [walkFrom_nil]
      | cons c rest =>
          have unread : read? (c :: rest) = none := silent 0 (Nat.succ_pos count)
          have silentRest : Silent count rest := fun index inside =>
            silent (index + 1) (Nat.succ_lt_succ inside)
          rw [walkFrom_of_none unread, ih silentRest, List.drop_succ_cons,
            Nat.add_right_comm, Nat.add_assoc]

theorem walkFrom_eq_nil (silent : ∀ index, read? (text.drop index) = none) :
    walkFrom position text = [] := by
  have wholeText : Silent text.length text := fun index _ => silent index
  rw [walkFrom_of_silent wholeText, List.drop_length, walkFrom_nil]

/-- A token on its own is the only marker, if it is reported at all. -/
theorem tokenize_of_token {more : Char → Bool} (token : Token lexeme text more) :
    tokenize text = report 0 lexeme := by
  have found : read? (text ++ []) = some lexeme := read?_of_token token (by simp)
  rw [List.append_nil] at found
  rw [tokenize, walkFrom_of_some found, ← token.length_eq, List.drop_length, walkFrom_nil,
    List.append_nil]

/-! ## A walk only sees the text from its place on -/

theorem report_add (position distance : Nat) (lexeme : Lexeme) :
    report (position + distance) lexeme =
      (report position lexeme).map (Marker.shift distance) := by
  simp only [report]
  split
  · simp only [List.map_cons, List.map_nil, Marker.shift, Lexeme.toMarker, List.cons.injEq,
      Marker.mk.injEq, true_and, and_true]
    omega
  · rfl

theorem walkFrom_add (position distance : Nat) (text : List Char) :
    walkFrom (position + distance) text =
      (walkFrom position text).map (Marker.shift distance) := by
  fun_induction walkFrom position text with
  | case1 => simp [walkFrom_nil]
  | case2 position c rest unread ih =>
      rw [walkFrom_of_none unread, Nat.add_right_comm, ih]
  | case3 position c rest lexeme found ih =>
      rw [walkFrom_of_some found, drop_length_of_read? found, List.map_append, report_add,
        Nat.add_right_comm position distance lexeme.length, ih]

theorem walkFrom_eq_map_shift (position : Nat) (text : List Char) :
    walkFrom position text = (tokenize text).map (Marker.shift position) := by
  have moved := walkFrom_add 0 position text
  rwa [Nat.zero_add] at moved

/-! ## Parts of a walk -/

/-- A part of a walk: from a place in front of a text it arrives at a later place, and these
are the markers that it reports on its way. -/
inductive Passes : Nat → List Char → List Marker → Nat → List Char → Prop where
  | here (position : Nat) (text : List Char) : Passes position text [] position text
  | pass {position place : Nat} {c : Char} {rest arrived : List Char} {markers : List Marker}
      (unread : read? (c :: rest) = none)
      (walk : Passes (position + 1) rest markers place arrived) :
      Passes position (c :: rest) markers place arrived
  | take {position place : Nat} {text arrived : List Char} {markers : List Marker}
      {lexeme : Lexeme} (found : read? text = some lexeme)
      (walk : Passes (position + lexeme.length) (text.drop lexeme.length) markers place arrived) :
      Passes position text (report position lexeme ++ markers) place arrived

theorem Passes.walkFrom_eq {markers : List Marker} {arrived : List Char}
    (walk : Passes position text markers place arrived) :
    walkFrom position text = markers ++ walkFrom place arrived := by
  induction walk with
  | here => rfl
  | pass unread _ ih => rw [walkFrom_of_none unread, ih]
  | take found _ ih => rw [walkFrom_of_some found, ih, List.append_assoc]

/-- Where a walk arrives is a later place of the same text. -/
theorem Passes.exists_before {markers : List Marker} {arrived : List Char}
    (walk : Passes position text markers place arrived) :
    ∃ before, text = before ++ arrived ∧ place = position + before.length := by
  induction walk with
  | here => exact ⟨[], rfl, rfl⟩
  | @pass position place c rest arrived markers _ _ ih =>
      obtain ⟨before, rfl, rfl⟩ := ih
      refine ⟨c :: before, rfl, ?_⟩
      rw [List.length_cons]
      omega
  | @take position place text arrived markers lexeme found _ ih =>
      obtain ⟨before, behind, rfl⟩ := ih
      refine ⟨text.take lexeme.length ++ before, ?_, ?_⟩
      · rw [List.append_assoc, ← behind, List.take_append_drop]
      · have inside := (read?_bounds found).2
        rw [List.length_append, List.length_take, Nat.min_eq_left inside, Nat.add_assoc]

/-- Every marker of a walk is a token at which the walk arrives. -/
theorem exists_passes_of_mem {marker : Marker} (member : marker ∈ walkFrom position text) :
    ∃ earlier place arrived lexeme, Passes position text earlier place arrived ∧
      read? arrived = some lexeme ∧ lexeme.isReported = true ∧
      marker = lexeme.toMarker place := by
  fun_induction walkFrom position text with
  | case1 => simp at member
  | case2 position c rest unread ih =>
      obtain ⟨earlier, place, arrived, lexeme, walk, found⟩ := ih member
      exact ⟨earlier, place, arrived, lexeme, .pass unread walk, found⟩
  | case3 position c rest lexeme found ih =>
      rcases List.mem_append.mp member with reported | later
      · simp only [report] at reported
        split at reported
        · rename_i isReported
          exact ⟨[], position, c :: rest, lexeme, .here _ _, found, isReported,
            by simpa using reported⟩
        · simp at reported
      · obtain ⟨earlier, place, arrived, next, walk, foundNext⟩ := ih later
        exact ⟨_, place, arrived, next, .take found (drop_length_of_read? found ▸ walk),
          foundNext⟩

/-- Every marker of a text is a token that stands in the text. -/
theorem exists_token_of_mem {marker : Marker} (member : marker ∈ tokenize text) :
    ∃ before body rest more lexeme, text = before ++ (body ++ rest) ∧ Token lexeme body more ∧
      (∀ c ∈ rest.head?, more c = false) ∧ lexeme.isReported = true ∧
      marker = lexeme.toMarker before.length := by
  obtain ⟨earlier, place, arrived, lexeme, walk, found, reported, rfl⟩ :=
    exists_passes_of_mem member
  obtain ⟨before, rfl, rfl⟩ := walk.exists_before
  obtain ⟨body, rest, more, token, rfl, ends⟩ := read?_eq_some_iff.mp found
  exact ⟨before, body, rest, more, lexeme, rfl, token, ends, reported, by rw [Nat.zero_add]⟩

end InlineMarkers.Tokenizer
