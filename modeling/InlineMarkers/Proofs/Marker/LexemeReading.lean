import InlineMarkers.Proofs.Marker.Walk
import Mathlib.Data.List.TakeDrop

/-!
# Lexemes are tokens

The scanner reads a lexeme at a place with a limit on tags, the tokenizer a token
without one.  Away from brackets the two are the same.  At a bracket, whatever is
read within the limit is the token, and when nothing is read there is a token
only if the bracket closes.
-/

namespace InlineMarkers

open Text Tokenizer

variable {limit : Nat} {text rest : List Char} {lexeme : Lexeme}

theorem priority?_eq (rest : List Char) :
    Lexeme.priority? ('#' :: rest) = Tokenizer.priority? rest := by
  simp only [Lexeme.priority?, Tokenizer.priority?]
  cases rest.takeWhile Char.isAlpha <;> rfl

theorem date?_eq (rest : List Char) : Lexeme.date? ('@' :: rest) = Tokenizer.date? rest := by
  cases rest <;> rfl

theorem addressLength_eq (text : List Char) :
    Lexeme.addressLength text = (address text).length := by
  cases text with
  | nil => rfl
  | cons c rest =>
      by_cases isAtSign : c = '@'
      · subst isAtSign
        simp [Lexeme.addressLength, address, Nat.add_comm]
      · simp [Lexeme.addressLength, address, isAtSign]

theorem assignee?_eq (rest : List Char) :
    Lexeme.assignee? ('+' :: rest) = Tokenizer.assignee? rest := by
  have behind : rest.dropWhile Lexeme.isAssigneeCharacter =
      rest.drop (rest.takeWhile Lexeme.isAssigneeCharacter).length :=
    List.append_cancel_left (List.takeWhile_append_dropWhile.trans (takeWhile_append_drop _ _).symm)
  simp only [Lexeme.assignee?, Tokenizer.assignee?, behind, addressLength_eq]
  cases rest.takeWhile Lexeme.isAssigneeCharacter <;> rfl

/-- No colour begins with a character that begins another token. -/
theorem color?_eq_none {c : Char} (different : c.toLower ≠ 'c') :
    Lexeme.color? (c :: rest) = none := by
  have notStarts : ¬Lexeme.startsColor (c :: rest) = true := fun starts =>
    different (toLower_of_startsColor starts)
  rw [Lexeme.color?, if_neg notStarts]

/-- Away from brackets the limit plays no part. -/
theorem at?_cons_of_ne {c : Char} (notBracket : c ≠ '[') :
    Lexeme.at? limit (c :: rest) = read? (c :: rest) := by
  have noTag : Lexeme.tag? limit (c :: rest) = none := by
    simp [Lexeme.tag?, notBracket]
  simp only [Lexeme.at?, noTag, read?, if_neg notBracket]
  by_cases isNumberSign : c = '#'
  · subst isNumberSign
    simp [color?_eq_none, priority?_eq, Lexeme.date?, Lexeme.assignee?]
  by_cases isAtSign : c = '@'
  · subst isAtSign
    simp [color?_eq_none, Lexeme.priority?, date?_eq, Lexeme.assignee?]
  by_cases isPlusSign : c = '+'
  · subst isPlusSign
    simp [color?_eq_none, Lexeme.priority?, Lexeme.date?, assignee?_eq]
  · simp [isNumberSign, isAtSign, isPlusSign, Lexeme.priority?, Lexeme.date?,
      Lexeme.assignee?, Lexeme.color?, Tokenizer.color?]

/-- At a bracket only a tag can be read. -/
theorem at?_bracket : Lexeme.at? limit ('[' :: rest) = Lexeme.tag? limit ('[' :: rest) := by
  simp [Lexeme.at?, color?_eq_none, Lexeme.priority?, Lexeme.date?, Lexeme.assignee?]

/-- A tag that is read within the limit is the tag of the bracket. -/
theorem read?_of_tag? (found : Lexeme.tag? limit ('[' :: rest) = some lexeme) :
    read? ('[' :: rest) = some lexeme := by
  simp only [Lexeme.tag?, List.span_eq_takeWhile_dropWhile] at found
  split at found
  · rename_i value after parts
    obtain rfl := Option.some.inj found
    obtain ⟨isValue, isAfter⟩ := Prod.mk.inj parts
    have unclosed : ']' ∉ value := by
      intro member
      rw [← isValue] at member
      simpa using List.mem_takeWhile_imp member
    have isRest : rest = value ++ ']' :: (after ++ rest.drop (limit + 1)) := by
      calc
        rest = rest.take (limit + 1) ++ rest.drop (limit + 1) :=
          (List.take_append_drop _ rest).symm
        _ = (value ++ ']' :: after) ++ rest.drop (limit + 1) := by
          rw [← isValue, ← isAfter, List.takeWhile_append_dropWhile]
        _ = value ++ ']' :: (after ++ rest.drop (limit + 1)) := by simp
    rw [isRest]
    have read : read? ('[' :: (value ++ [']']) ++ (after ++ rest.drop (limit + 1))) =
        some ⟨.tag, 1, value, 1⟩ := read?_of_token (.tag unclosed) (by simp)
    simpa using read
  · simp at found

/-- What is read within a limit is read without one. -/
theorem read?_of_at? (found : Lexeme.at? limit text = some lexeme) : read? text = some lexeme := by
  cases text with
  | nil => simp [Lexeme.at?, Lexeme.tag?, Lexeme.color?, Lexeme.startsColor, MarkerKind.opening,
      Lexeme.priority?, Lexeme.date?, Lexeme.assignee?] at found
  | cons c rest =>
      by_cases isBracket : c = '['
      · subst isBracket
        exact read?_of_tag? (at?_bracket ▸ found)
      · rwa [at?_cons_of_ne isBracket] at found

/-- The text starts with a bracket that closes. -/
def StartsClosed (text : List Char) : Prop :=
  ∃ rest, text = '[' :: rest ∧ ']' ∈ rest

/-- A token that is not read within the limit is a tag. -/
theorem read?_of_at?_eq_none (unread : Lexeme.at? limit text = none)
    (notClosed : ¬StartsClosed text) : read? text = none := by
  cases text with
  | nil => rfl
  | cons c rest =>
      by_cases isBracket : c = '['
      · subst isBracket
        have noClosing : ']' ∉ rest := fun closes => notClosed ⟨rest, rfl, closes⟩
        simp [read?, Tokenizer.tag?, noClosing]
      · rwa [at?_cons_of_ne isBracket] at unread

end InlineMarkers
