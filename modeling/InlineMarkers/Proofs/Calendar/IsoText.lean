import InlineMarkers.Marker.Lexeme
import InlineMarkers.Proofs.Calendar.Digits
import InlineMarkers.Proofs.Text.Separated

/-!
# Dates written with hyphens

The text of a date is a token of its own, and cutting it at the hyphens gives
its three numbers.
-/

namespace InlineMarkers.Calendar

open Text

variable {year month day : Nat} {c : Char}

theorem notMem_of_isDigit {digits : List Char} (ascii : ∀ c ∈ digits, c.isDigit = true)
    (outside : c.isDigit = false) : c ∉ digits := by
  intro member
  rw [ascii c member] at outside
  exact absurd outside (by decide)

theorem isoText_natCast (year month day : Nat) :
    isoText year month day =
      Nat.toDigits 10 year ++ '-' :: (padded 2 month ++ '-' :: padded 2 day) := by
  rw [isoText, integerText_natCast, List.append_assoc, List.cons_append]

theorem fields_isoText (year month day : Nat) :
    fields '-' (isoText year month day) =
      [Nat.toDigits 10 year, padded 2 month, padded 2 day] := by
  have noHyphen : ('-' : Char).isDigit = false := by decide
  rw [isoText_natCast,
    fields_append_separator (notMem_of_isDigit (fun _ => isDigit_of_mem_toDigits) noHyphen),
    fields_append_separator (notMem_of_isDigit (fun _ => isDigit_of_mem_padded) noHyphen),
    fields_of_notMem (notMem_of_isDigit (fun _ => isDigit_of_mem_padded) noHyphen)]

/-- Rows of digits with hyphens between them hold digits and hyphens. -/
theorem isDigit_of_mem_hyphenated {years months days : List Char}
    (yearDigits : ∀ c ∈ years, c.isDigit = true) (monthDigits : ∀ c ∈ months, c.isDigit = true)
    (dayDigits : ∀ c ∈ days, c.isDigit = true)
    (member : c ∈ years ++ '-' :: (months ++ '-' :: days)) : c.isDigit = true ∨ c = '-' := by
  rw [List.mem_append, List.mem_cons, List.mem_append, List.mem_cons] at member
  rcases member with inYear | isHyphen | inMonth | isHyphen | inDay
  · exact .inl (yearDigits c inYear)
  · exact .inr isHyphen
  · exact .inl (monthDigits c inMonth)
  · exact .inr isHyphen
  · exact .inl (dayDigits c inDay)

theorem isDigit_of_mem_isoText (member : c ∈ isoText year month day) :
    c.isDigit = true ∨ c = '-' := by
  rw [isoText_natCast] at member
  exact isDigit_of_mem_hyphenated (fun _ => isDigit_of_mem_toDigits)
    (fun _ => isDigit_of_mem_padded) (fun _ => isDigit_of_mem_padded) member

theorem isDateCharacter_of_isDigit_or (inDate : c.isDigit = true ∨ c = '-') :
    Lexeme.isDateCharacter c = true := by
  rcases inDate with digit | rfl
  · simp [Lexeme.isDateCharacter, digit]
  · decide

theorem isDateCharacter_of_mem_isoText (member : c ∈ isoText year month day) :
    Lexeme.isDateCharacter c = true :=
  isDateCharacter_of_isDigit_or (isDigit_of_mem_isoText member)

/-- The text of a date begins with a digit. -/
theorem exists_isoText_eq_cons (year month day : Nat) :
    ∃ first rest, isoText year month day = first :: rest ∧ first.isDigit = true := by
  obtain ⟨first, rest, parts⟩ := List.exists_cons_of_ne_nil (Nat.toDigits_ne_nil (n := year))
  refine ⟨first, rest ++ '-' :: (padded 2 month ++ '-' :: padded 2 day), ?_, ?_⟩
  · rw [isoText_natCast, parts, List.cons_append]
  · apply isDigit_of_mem_toDigits (n := year)
    rw [parts]
    exact List.mem_cons_self

end InlineMarkers.Calendar
