import InlineMarkers.Proofs.Marker.ScanRefinement
import InlineMarkers.Proofs.Text.Slices

/-!
# The spans of the markers of a text

Every marker stands where the scan says, no two markers share a character, and
the cursor moves on with every turn of the scan.
-/

namespace InlineMarkers

open Text Tokenizer

namespace Marker

/-- A marker that stands in a text: its value span lies inside its marker span, which lies in
the text, and its value is what the text holds there. -/
structure StandsIn (text : List Char) (marker : Marker) : Prop where
  opens : marker.markerStart < marker.start
  ordered : marker.start ≤ marker.stop
  closes : marker.stop ≤ marker.markerStop
  inside : marker.markerStop ≤ text.length
  value_eq : marker.value = slice text marker.start marker.stop
  tag_eq : marker.kind = .tag → ']' ∉ marker.value ∧
    slice text marker.markerStart marker.markerStop = '[' :: (marker.value ++ [']'])
  notHexWord : marker.kind = .priority → Lexeme.isHexWord marker.value = false

/-- A character of the text belongs to the whole marker. -/
def Covers (marker : Marker) (index : Nat) : Prop :=
  marker.markerStart ≤ index ∧ index < marker.markerStop

/-- One marker stops where another one starts, or before. -/
def Precedes (first second : Marker) : Prop :=
  first.markerStop ≤ second.markerStart

end Marker

namespace Tokenizer

variable {position : Nat} {text : List Char} {marker : Marker}

theorem Token.slice_value {lexeme : Lexeme} {body : List Char} {more : Char → Bool}
    (token : Token lexeme body more) :
    slice body lexeme.lead (lexeme.lead + lexeme.value.length) = lexeme.value := by
  cases token with
  | @color opening value size starts inside =>
      simp only [slice, ← size, List.drop_left, Nat.add_sub_cancel_left, List.take_length]
  | _ => simp [slice]

theorem Token.tag_eq {lexeme : Lexeme} {body : List Char} {more : Char → Bool}
    (token : Token lexeme body more) (isTag : lexeme.kind = .tag) :
    ']' ∉ lexeme.value ∧ body = '[' :: (lexeme.value ++ [']']) := by
  cases token with
  | tag unclosed => exact ⟨unclosed, rfl⟩
  | _ => simp at isTag

/-- Every marker of a text stands in it. -/
theorem standsIn_of_mem (member : marker ∈ tokenize text) : marker.StandsIn text := by
  obtain ⟨before, body, rest, more, lexeme, rfl, token, -, reported, rfl⟩ :=
    exists_token_of_mem member
  have leadPos := token.lead_pos
  have size := token.length_eq
  have parts : lexeme.length = lexeme.lead + lexeme.value.length + lexeme.trail := rfl
  refine ⟨?_, ?_, ?_, ?_, ?_, ?_, ?_⟩
  · simp only [Lexeme.toMarker]
    omega
  · simp only [Lexeme.toMarker]
    omega
  · simp only [Lexeme.toMarker]
    omega
  · simp only [Lexeme.toMarker, List.length_append]
    omega
  · simp only [Lexeme.toMarker]
    rw [Nat.add_assoc, slice_append before body rest (by omega) (by omega), token.slice_value]
  · intro isTag
    obtain ⟨unclosed, bodyEq⟩ := token.tag_eq isTag
    refine ⟨unclosed, ?_⟩
    have whole := slice_append before body rest (Nat.zero_le _) (Nat.le_refl _)
    rw [slice_zero_length, Nat.add_zero, size] at whole
    exact whole.trans bodyEq
  · intro isPriority
    have kindEq : lexeme.kind = .priority := isPriority
    simpa [Lexeme.isReported, kindEq, Lexeme.toMarker] using reported

theorem le_markerStart_of_mem (member : marker ∈ walkFrom position text) :
    position ≤ marker.markerStart := by
  obtain ⟨earlier, place, arrived, lexeme, walk, found, reported, rfl⟩ :=
    exists_passes_of_mem member
  obtain ⟨before, rfl, rfl⟩ := walk.exists_before
  exact Nat.le_add_right _ _

theorem markerStop_of_mem_report {lexeme : Lexeme} (member : marker ∈ report position lexeme) :
    marker.markerStop = position + lexeme.length := by
  simp only [report] at member
  split at member
  · rw [List.mem_singleton.mp member, Lexeme.toMarker]
  · simp at member

/-- The markers of a walk stand one behind another. -/
theorem pairwise_walkFrom (position : Nat) (text : List Char) :
    (walkFrom position text).Pairwise Marker.Precedes := by
  fun_induction walkFrom position text with
  | case1 => exact .nil
  | case2 position c rest unread ih => exact ih
  | case3 position c rest lexeme found ih =>
      refine List.pairwise_append.mpr ⟨?_, ih, ?_⟩
      · simp only [report]
        split
        · exact List.pairwise_singleton _ _
        · exact .nil
      · intro first isFirst second isSecond
        rw [Marker.Precedes, markerStop_of_mem_report isFirst]
        exact le_markerStart_of_mem isSecond

/-- Every character of a text belongs to at most one marker. -/
theorem eq_of_covers {first second : Marker} {index : Nat} (isFirst : first ∈ tokenize text)
    (isSecond : second ∈ tokenize text) (coversFirst : first.Covers index)
    (coversSecond : second.Covers index) : first = second := by
  have pairwise : (tokenize text).Pairwise Marker.Precedes := pairwise_walkFrom 0 text
  have ordered := List.pairwise_iff_getElem.mp pairwise
  obtain ⟨i, insideFirst, rfl⟩ := List.mem_iff_getElem.mp isFirst
  obtain ⟨j, insideSecond, rfl⟩ := List.mem_iff_getElem.mp isSecond
  simp only [Marker.Covers] at coversFirst coversSecond
  rcases Nat.lt_trichotomy i j with earlier | same | later
  · have := ordered i j insideFirst insideSecond earlier
    simp only [Marker.Precedes] at this
    omega
  · subst same
    rfl
  · have := ordered j i insideSecond insideFirst later
    simp only [Marker.Precedes] at this
    omega

end Tokenizer

namespace Scan

variable {limit turns : Nat} {text : List Char} {state next : Scan} {marker : Option Marker}

/-- A scan of a text arrives at a state between two turns after so many turns, each of which
began in front of some text. -/
inductive Reaches (limit : Nat) (text : List Char) : Nat → Scan → Prop where
  | start : Reaches limit text 0 (start text)
  | turn {turns : Nat} {state next : Scan} {marker : Option Marker}
      (reached : Reaches limit text turns state) (textLeft : state.rest ≠ [])
      (stepped : state.step limit = some (marker, next)) : Reaches limit text (turns + 1) next

/-- Every turn moves the cursor. -/
theorem position_lt_of_step (follows : state.Follows text)
    (stepped : state.step limit = some (marker, next)) : state.position < next.position := by
  obtain ⟨gap, lexeme, -, found, -, nextPlace, -⟩ := step_advances follows stepped
  have nonempty := length_pos_of_read? found
  omega

theorem Reaches.follows (reached : Reaches limit text turns state) : state.Follows text := by
  induction reached with
  | start => exact follows_start text
  | turn _ _ stepped ih =>
      obtain ⟨gap, lexeme, -, -, -, -, nextFollows⟩ := step_advances ih stepped
      exact nextFollows

/-- A scan has done at most as many turns as there are characters behind its cursor. -/
theorem Reaches.turns_le (reached : Reaches limit text turns state) :
    turns ≤ state.position := by
  induction reached with
  | start => exact Nat.zero_le _
  | turn reached _ stepped ih =>
      have moved := position_lt_of_step reached.follows stepped
      omega

/-- While there is text left, the turns done are fewer than the characters of the text. -/
theorem Reaches.turns_lt (reached : Reaches limit text turns state) (textLeft : state.rest ≠ []) :
    turns < text.length := by
  have done := reached.turns_le
  rw [reached.follows.rest_eq, ne_eq, List.drop_eq_nil_iff] at textLeft
  omega

end Scan

/-- A limit that cannot be used leaves a text without markers, and every other one finds its
tokens. -/
theorem scanValueOrNone_cases (text : String) (limit : Value) :
    scanValueOrNone (.text text) limit = tokenize text.toList ∨
      scanValueOrNone (.text text) limit = [] := by
  simp only [scanValueOrNone, scanValue, Value.asText]
  split
  · rename_i markers found
    split at found
    · obtain rfl := Except.ok.inj found
      exact .inr rfl
    · cases usable : tagLimit limit with
      | error cause => simp [usable, Except.map] at found
      | ok limit =>
          simp only [usable, Except.map, Except.ok.injEq, scan_eq_tokenize] at found
          exact .inl found.symm
  · exact .inr rfl

theorem mem_tokenize_of_mem_scanValueOrNone {text : String} {limit : Value} {marker : Marker}
    (member : marker ∈ scanValueOrNone (.text text) limit) : marker ∈ tokenize text.toList := by
  rcases scanValueOrNone_cases text limit with found | nothing
  · rwa [found] at member
  · simp [nothing] at member

/-- A scan under any limit finds markers that stand in the text one behind another, so that
no character belongs to two of them.  Each turn moves the cursor, and there are at most as
many turns as characters. -/
theorem scan_spans (text : String) (limit : Value) :
    (∀ marker ∈ scanValueOrNone (.text text) limit, marker.StandsIn text.toList) ∧
    (scanValueOrNone (.text text) limit).Pairwise Marker.Precedes ∧
    (∀ first ∈ scanValueOrNone (.text text) limit, ∀ second ∈ scanValueOrNone (.text text) limit,
      ∀ index, first.Covers index → second.Covers index → first = second) ∧
    (∀ limit turns state, Scan.Reaches limit text.toList turns state →
      (∀ marker next, state.step limit = some (marker, next) → state.position < next.position) ∧
      turns ≤ state.position ∧ (state.rest ≠ [] → turns < text.toList.length)) ∧
    ∀ limit turns, text.toList.length ≤ turns →
      Scan.run limit turns (Scan.start text.toList) = scan limit text.toList := by
  refine ⟨?_, ?_, ?_, ?_, ?_⟩
  · intro marker member
    exact standsIn_of_mem (mem_tokenize_of_mem_scanValueOrNone member)
  · rcases scanValueOrNone_cases text limit with found | nothing
    · rw [found]
      exact pairwise_walkFrom 0 _
    · rw [nothing]
      exact .nil
  · intro first isFirst second isSecond index coversFirst coversSecond
    exact eq_of_covers (mem_tokenize_of_mem_scanValueOrNone isFirst)
      (mem_tokenize_of_mem_scanValueOrNone isSecond) coversFirst coversSecond
  · intro limit turns state reached
    exact ⟨fun marker next => Scan.position_lt_of_step reached.follows, reached.turns_le,
      reached.turns_lt⟩
  · intro limit turns enough
    have walked : Scan.run limit turns (Scan.start text.toList) = tokenize text.toList :=
      Scan.run_eq_walkFrom (Scan.follows_start text.toList) enough
    exact walked.trans (scan_eq_tokenize limit text.toList).symm

end InlineMarkers
