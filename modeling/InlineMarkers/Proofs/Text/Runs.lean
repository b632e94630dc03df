import Mathlib.Data.List.TakeWhile

/-!
# Runs of characters

A scanner reads the longest run of characters of one class.  These lemmas say
what such a run is when the text is known in two pieces: the run of a text that
is cut behind it, and the run of a text whose tail is exchanged for another one
that begins with the same character.
-/

namespace InlineMarkers.Text

variable {p : Char → Bool} {run rest first second : List Char}

/-- A run is as long as it can be: it is the whole of a piece of its class that is followed
by nothing of its class. -/
theorem takeWhile_append_of_head (inside : ∀ c ∈ run, p c = true)
    (outside : ∀ c ∈ rest.head?, p c = false) : (run ++ rest).takeWhile p = run := by
  rw [List.takeWhile_append_of_pos inside]
  cases rest with
  | nil => simp
  | cons c more => simp [outside c (by simp)]

theorem dropWhile_append_of_head (inside : ∀ c ∈ run, p c = true)
    (outside : ∀ c ∈ rest.head?, p c = false) : (run ++ rest).dropWhile p = rest := by
  rw [List.dropWhile_append_of_pos inside]
  cases rest with
  | nil => rfl
  | cons c more => simp [outside c (by simp)]

/-- A text is its first run and what follows it. -/
theorem takeWhile_append_drop (p : Char → Bool) (text : List Char) :
    text.takeWhile p ++ text.drop (text.takeWhile p).length = text :=
  List.prefix_iff_eq_append.mp (List.takeWhile_prefix p)

/-- What follows a run does not begin with a character of its class. -/
theorem head?_drop_takeWhile (p : Char → Bool) (text : List Char) :
    ∀ c ∈ (text.drop (text.takeWhile p).length).head?, p c = false := by
  induction text with
  | nil => simp
  | cons c text ih =>
      by_cases inClass : p c = true
      · simpa [inClass] using ih
      · simp [inClass]

/-- A text that holds a character is cut at the first place of it. -/
theorem takeWhile_ne_append {c : Char} (before after : List Char) (isFirst : c ∉ before) :
    (before ++ c :: after).takeWhile (· != c) = before := by
  apply takeWhile_append_of_head
  · intro other member
    simp only [bne_iff_ne, ne_eq]
    rintro rfl
    exact isFirst member
  · simp

/-- A text that holds a character is cut at the last place of it. -/
theorem exists_last_of_mem {c : Char} {text : List Char} (member : c ∈ text) :
    ∃ before after, text = before ++ c :: after ∧ c ∉ after := by
  obtain ⟨after, before, reversed, isFirst⟩ :=
    List.eq_append_cons_of_mem (List.mem_reverse.mpr member)
  refine ⟨before.reverse, after.reverse, ?_, fun inAfter => isFirst (List.mem_reverse.mp inAfter)⟩
  rw [← List.reverse_reverse text, reversed, List.reverse_append, List.reverse_cons,
    List.append_assoc, List.singleton_append]

end InlineMarkers.Text
