import InlineMarkers.Text.Blank
import Mathlib.Data.List.TakeWhile

/-!
# Trimmed texts

Trimming drops characters from the ends of a text, so what is left is a part of
it, and a text without blanks is left as it is.  The same holds of the final line
break that a pattern ignores.
-/

namespace InlineMarkers.Text

variable {text : List Char} {c : Char}

theorem mem_of_mem_trimEnd (member : c ∈ trimEnd text) : c ∈ text := by
  rw [trimEnd, List.mem_reverse] at member
  exact List.mem_reverse.mp ((List.dropWhile_suffix _).subset member)

theorem mem_of_mem_trim (member : c ∈ trim text) : c ∈ text :=
  (List.dropWhile_suffix _).subset (mem_of_mem_trimEnd member)

theorem trimEnd_length_le (text : List Char) : (trimEnd text).length ≤ text.length := by
  rw [trimEnd, List.length_reverse]
  exact (List.dropWhile_suffix _).length_le.trans (Nat.le_of_eq List.length_reverse)

theorem trimStart_suffix (text : List Char) : trimStart text <:+ text :=
  List.dropWhile_suffix _

/-- What is trimmed from the end of a text is blank. -/
theorem exists_trimEnd_append (text : List Char) :
    ∃ blanks, (∀ c ∈ blanks, isBlank c = true) ∧ trimEnd text ++ blanks = text := by
  refine ⟨(text.reverse.takeWhile isBlank).reverse, fun c member => ?_, ?_⟩
  · exact List.mem_takeWhile_imp (List.mem_reverse.mp member)
  · rw [trimEnd, ← List.reverse_append, List.takeWhile_append_dropWhile, List.reverse_reverse]

/-- Only blanks are trimmed. -/
theorem mem_trim (member : c ∈ text) (solid : isBlank c = false) : c ∈ trim text := by
  have inStart : c ∈ trimStart text := by
    rw [← List.takeWhile_append_dropWhile (p := isBlank) (l := text), List.mem_append] at member
    refine member.resolve_left fun blank => ?_
    rw [List.mem_takeWhile_imp blank] at solid
    exact Bool.noConfusion solid
  obtain ⟨blanks, areBlank, parts⟩ := exists_trimEnd_append (trimStart text)
  rw [← parts, List.mem_append] at inStart
  refine inStart.resolve_right fun blank => ?_
  rw [areBlank c blank] at solid
  exact Bool.noConfusion solid

theorem trim_nil : trim [] = [] := rfl

theorem trim_of_no_blanks (solid : ∀ c ∈ text, isBlank c = false) : trim text = text := by
  have front : trimStart text = text := by
    cases text with
    | nil => rfl
    | cons c text => simp [trimStart, solid c List.mem_cons_self]
  have back : text.reverse.dropWhile isBlank = text.reverse := by
    cases reversed : text.reverse with
    | nil => rfl
    | cons c rest =>
        have member : c ∈ text := by
          rw [← List.mem_reverse, reversed]
          exact List.mem_cons_self
        simp [solid c member]
  rw [trim, front, trimEnd, back, List.reverse_reverse]

theorem eq_of_atEnd (ends : atEnd text = true) : text = [] ∨ text = ['\n'] := by
  match text, ends with
  | [], _ => exact .inl rfl
  | [c], isBreak => exact .inr (by rw [eq_of_beq isBreak])

/-- A typed text is another text, up to one final line break. -/
def UpToBreak (typed text : List Char) : Prop :=
  typed = text ∨ typed = text ++ ['\n']

theorem upToBreak_withoutFinalBreak (typed : List Char) :
    UpToBreak typed (withoutFinalBreak typed) := by
  fun_induction withoutFinalBreak typed with
  | case1 => exact .inl rfl
  | case2 => exact .inr rfl
  | case3 c rest _ ih => exact ih.imp (congrArg (c :: ·)) (congrArg (c :: ·))

theorem withoutFinalBreak_append (text : List Char) :
    withoutFinalBreak (text ++ ['\n']) = text := by
  induction text with
  | nil => rfl
  | cons c text ih =>
      have more : text ++ ['\n'] ≠ [] := by simp
      rw [List.cons_append, withoutFinalBreak, ih]
      rintro rfl
      exact more

theorem withoutFinalBreak_of_notMem (unbroken : '\n' ∉ text) :
    withoutFinalBreak text = text := by
  fun_induction withoutFinalBreak text with
  | case1 => rfl
  | case2 => simp at unbroken
  | case3 c rest _ ih => rw [ih fun member => unbroken (List.mem_cons_of_mem c member)]

theorem UpToBreak.withoutFinalBreak_eq {typed : List Char} (upTo : UpToBreak typed text)
    (unbroken : '\n' ∉ text) : withoutFinalBreak typed = text := by
  rcases upTo with rfl | rfl
  · exact withoutFinalBreak_of_notMem unbroken
  · exact withoutFinalBreak_append text

theorem mem_of_mem_withoutFinalBreak (member : c ∈ withoutFinalBreak text) : c ∈ text := by
  fun_induction withoutFinalBreak text with
  | case1 => exact member
  | case2 => simp at member
  | case3 first rest _ ih =>
      rcases List.mem_cons.mp member with rfl | later
      · exact List.mem_cons_self
      · exact List.mem_cons_of_mem first (ih later)

end InlineMarkers.Text
