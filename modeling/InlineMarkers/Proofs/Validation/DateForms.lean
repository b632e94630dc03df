import InlineMarkers.Proofs.Calendar.IsoText
import InlineMarkers.Proofs.Text.Trim
import InlineMarkers.Validation.DateForm

/-!
# The forms of typed dates

Which texts have a form with a year, a month and a day, and which form the text
of a date and the beginning of a word have.
-/

namespace InlineMarkers.DateForm

open Text Calendar

variable {typed : List Char} {year month day : Nat}

/-- The year, the month and the day that a form names. -/
def parts? : DateForm → Option (Nat × Nat × Nat)
  | slashed year month day => some (year, month, day)
  | monthFirst year month day => some (year, month, day)
  | monthFirstHyphens year month day => some (year, month, day)
  | iso year month day => some (year, month, day)
  | beginning => none
  | keyword => none
  | unknown => none

/-- A form whose day is read from at most two digits, if it names one. -/
def HasShortDay (form : DateForm) : Prop :=
  ∀ year month day, form.parts? = some (year, month, day) → day < 100

theorem hasShortDay_of_parts {form : DateForm} {year month : Nat} {digits : List Char}
    (named : form.parts? = some (year, month, digitsValue digits))
    (row : isDigitRow 1 2 digits = true) : form.HasShortDay := by
  intro _ _ day same
  rw [named, Option.some.injEq, Prod.mk.injEq, Prod.mk.injEq] at same
  obtain ⟨-, -, rfl⟩ := same
  exact digitsValue_lt_of_isDigitRow row

theorem hasShortDay_ofHyphens (typed : List Char) : (ofHyphens typed).HasShortDay := by
  fun_cases ofHyphens typed with
  | case1 a b c _ rows =>
      simp only [Bool.and_eq_true] at rows
      exact hasShortDay_of_parts rfl rows.1.2
  | case2 a b c _ _ rows =>
      simp only [Bool.and_eq_true] at rows
      exact hasShortDay_of_parts rfl rows.2
  | case3 => simp [HasShortDay, parts?]
  | case4 => simp [HasShortDay, parts?]

theorem hasShortDay_numeric (typed : List Char) : (numeric typed).HasShortDay := by
  fun_cases numeric typed with
  | case1 a b c _ rows =>
      simp only [Bool.and_eq_true] at rows
      exact hasShortDay_of_parts rfl rows.2
  | case2 a b c _ _ rows =>
      simp only [Bool.and_eq_true] at rows
      exact hasShortDay_of_parts rfl rows.1.2
  | case3 => simp [HasShortDay, parts?]
  | case4 => exact hasShortDay_ofHyphens typed

theorem hasShortDay_ofText (typed : List Char) : (ofText typed).HasShortDay := by
  fun_cases ofText typed with
  | case1 => simp [HasShortDay, parts?]
  | case2 => simp [HasShortDay, parts?]
  | case3 => exact hasShortDay_numeric typed

/-- A text without a separator names no year, month and day. -/
theorem numeric_of_unseparated (noSlash : '/' ∉ typed) (noHyphen : '-' ∉ typed) :
    numeric typed = unknown := by
  have slashes := fields_of_notMem fun member => noSlash (mem_of_mem_withoutFinalBreak member)
  have hyphens := fields_of_notMem fun member => noHyphen (mem_of_mem_withoutFinalBreak member)
  simp only [numeric, slashes, ofHyphens, hyphens]

theorem separated_of_parts {parts : Nat × Nat × Nat} (named : (ofText typed).parts? = some parts) :
    '/' ∈ typed ∨ '-' ∈ typed := by
  by_contra unseparated
  rw [not_or] at unseparated
  simp only [ofText, numeric_of_unseparated unseparated.1 unseparated.2] at named
  split at named
  · simp [parts?] at named
  · split at named <;> simp [parts?] at named

/-! ## Texts without blanks -/

/-- A character of ASCII that is not blank. -/
def IsSolid (c : Char) : Prop :=
  c.toNat < 0x80 ∧ isBlank c = false

theorem isSolid_of_isAlphanum {c : Char} (inClass : c.isAlphanum = true) : IsSolid c :=
  ⟨toNat_lt_of_isAlphanum inClass, isBlank_of_isAlphanum inClass⟩

theorem isSolid_of_isDateCharacter {c : Char} (inClass : Lexeme.isDateCharacter c = true) :
    IsSolid c := by
  simp only [Lexeme.isDateCharacter, Bool.or_eq_true, beq_iff_eq] at inClass
  rcases inClass with (digit | rfl) | rfl
  · exact isSolid_of_isAlphanum (by simp [Char.isAlphanum, digit])
  · exact ⟨by decide, by decide⟩
  · exact ⟨by decide, by decide⟩

theorem isSolid_of_isNameCharacter {c : Char} (inClass : Lexeme.isNameCharacter c = true) :
    IsSolid c := by
  simp only [Lexeme.isNameCharacter, Bool.or_eq_true, beq_iff_eq] at inClass
  rcases inClass with inClass | rfl
  · exact isSolid_of_isAlphanum inClass
  · exact ⟨by decide, by decide⟩

/-- A keyword without blanks is one of the words in some case. -/
theorem isDateKeyword_of_solid (solid : ∀ c ∈ typed, IsSolid c) :
    isDateKeyword typed = dateKeywords.any (·.toList == typed.map Char.toLower) := by
  rw [isDateKeyword, trim_of_no_blanks fun c member => (solid c member).2,
    lower_of_ascii fun c member => (solid c member).1]

/-- The keywords are made of letters. -/
theorem isDateKeyword_of_mem {c : Char} (member : c ∈ typed) (solid : IsSolid c)
    (noLetter : c.isAlpha = false) : isDateKeyword typed = false := by
  have letters : ∀ word ∈ dateKeywords, word.toList.all Char.isAlpha = true := by decide
  rw [isDateKeyword, List.any_eq_false]
  intro word isWord same
  have lowered := toLower_mem_lower (mem_trim member solid.2) solid.1
  rw [← eq_of_beq same] at lowered
  have letter := List.all_eq_true.mp (letters word isWord) _ lowered
  rw [isAlpha_toLower, noLetter] at letter
  exact Bool.noConfusion letter

theorem withoutFinalBreak_of_solid (solid : ∀ c ∈ typed, IsSolid c) :
    withoutFinalBreak typed = typed :=
  withoutFinalBreak_of_notMem fun member => absurd (solid _ member).2 (by decide)

/-! ## The text of a date -/

theorem isSolid_of_mem_isoText {c : Char} (member : c ∈ isoText year month day) : IsSolid c :=
  isSolid_of_isDateCharacter (isDateCharacter_of_mem_isoText member)

theorem withoutFinalBreak_isoText (year month day : Nat) :
    withoutFinalBreak (isoText year month day) = isoText year month day :=
  withoutFinalBreak_of_solid fun _ member => isSolid_of_mem_isoText member

theorem isBeginning_isoText (year month day : Nat) :
    isBeginning (isoText year month day) = false := by
  have filled : padded 2 day ≠ [] := by
    rw [padded_natCast]
    simp
  obtain ⟨first, rest, parts⟩ := List.exists_cons_of_ne_nil filled
  simp only [isBeginning, withoutFinalBreak_isoText, fields_isoText, parts]

theorem isDateKeyword_isoText (year month day : Nat) :
    isDateKeyword (isoText year month day) = false := by
  have hyphen : '-' ∈ isoText year month day := by simp [isoText]
  exact isDateKeyword_of_mem hyphen (isSolid_of_mem_isoText hyphen) (by decide)

/-- The text of a date names that date, unless its year is not written in four digits. -/
theorem ofText_isoText (year month : Nat) (daySmall : day < 100) :
    ofText (isoText year month day) = iso year month day ∨
      ofText (isoText year month day) = unknown := by
  have noSlash : '/' ∉ isoText year month day := fun member =>
    absurd (isDigit_of_mem_isoText member) (by decide)
  have shortDay : isDigitRow 4 4 (padded 2 day) = false := by
    rw [isDigitRow, length_padded (by decide) daySmall]
    rfl
  simp only [ofText, isBeginning_isoText, isDateKeyword_isoText, numeric, withoutFinalBreak_isoText,
    fields_of_notMem noSlash, ofHyphens, fields_isoText, shortDay, Bool.and_false,
    Bool.false_eq_true, if_false, digitsValue_toDigits, digitsValue_padded]
  split
  · exact .inl rfl
  · exact .inr rfl

/-! ## The beginning of a word -/

/-- Today with more characters of a name behind it is no form of a date. -/
theorem ofText_today_append {run : List Char} (nonempty : run ≠ [])
    (inside : ∀ c ∈ run, Lexeme.isNameCharacter c = true) :
    ofText ("today".toList ++ run) = unknown := by
  have names : ∀ c ∈ "today".toList ++ run, Lexeme.isNameCharacter c = true := by
    intro c member
    rcases List.mem_append.mp member with inToday | inRun
    · have today : "today".toList.all Lexeme.isNameCharacter = true := by decide
      exact List.all_eq_true.mp today c inToday
    · exact inside c inRun
  have solid : ∀ c ∈ "today".toList ++ run, IsSolid c := fun c member =>
    isSolid_of_isNameCharacter (names c member)
  have noHyphen : '-' ∉ "today".toList ++ run := fun member =>
    absurd (names _ member) (by decide)
  have noSlash : '/' ∉ "today".toList ++ run := fun member =>
    absurd (names _ member) (by decide)
  have notBeginning : isBeginning ("today".toList ++ run) = false := by
    have noRow : isDigitRow 1 4 ("today".toList ++ run) = false := by
      rw [Bool.eq_false_iff]
      intro row
      have digits := (isDigitRow_iff.mp row).2.2 't' (List.mem_append_left run (by decide))
      exact absurd digits (by decide)
    simp only [isBeginning, withoutFinalBreak_of_solid solid, fields_of_notMem noHyphen, noRow]
  have notKeyword : isDateKeyword ("today".toList ++ run) = false := by
    have words : ∀ word ∈ dateKeywords, word.toList.take 5 = "today".toList →
        word.toList.length ≤ 5 := by decide
    rw [isDateKeyword_of_solid solid, List.any_eq_false]
    intro word isWord same
    have wordEq : word.toList = "today".toList ++ run.map Char.toLower := by
      rw [eq_of_beq same, List.map_append]
      rfl
    have short := words word isWord (by rw [wordEq]; rfl)
    rw [wordEq, List.length_append, List.length_map] at short
    have longer := List.length_pos_iff.mpr nonempty
    have five : "today".toList.length = 5 := rfl
    omega
  simp only [ofText, notBeginning, notKeyword, numeric_of_unseparated noSlash noHyphen,
    Bool.false_eq_true, if_false]

end InlineMarkers.DateForm
