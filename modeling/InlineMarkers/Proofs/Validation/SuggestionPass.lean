import InlineMarkers.Proofs.Diagnostic.Reports
import InlineMarkers.Proofs.Text.SearchPlaces
import InlineMarkers.Validation.Suggestions
import Mathlib.Data.List.Forall2

/-!
# What the suggestions point at

A suggestion is about a word that stands where it points.  The marker that it
offers begins with a character that spells no letter, so no word stands there
after the fix.
-/

namespace InlineMarkers.Validation

open Text

variable {config : MarkerConfig} {text : List Char} {markers : List Marker}
  {diagnostic : Diagnostic} {words : List String} {c : Char}

/-- No word begins with a character that spells none of their first letters. -/
theorem wholeWord_of_foreign
    (foreign : ∀ word ∈ words, word.toList.head?.any (fun letter => !spells letter c) = true)
    (before rest : List Char) : wholeWord words before (c :: rest) = none := by
  simp only [wholeWord, ite_eq_right_iff]
  intro _
  rw [List.findSome?_eq_none_iff]
  intro word isWord
  have noLetter := foreign word isWord
  cases letters : word.toList with
  | nil => simp [letters] at noLetter
  | cons letter more =>
      have unspelled : spells letter c = false := by simpa [letters] using noLetter
      simp [spelledWord?, unspelled]

/-- A text spells a word, letter by letter. -/
def IsSpelling (word spelled : List Char) : Prop :=
  List.Forall₂ (fun letter c => spells letter c = true) word spelled

theorem spelledWord?_eq_some_iff {letters rest spelled : List Char} :
    spelledWord? letters rest = some spelled ↔ IsSpelling letters spelled ∧ spelled <+: rest := by
  fun_induction spelledWord? letters rest generalizing spelled with
  | case1 rest =>
      rw [Option.some.injEq, IsSpelling, List.forall₂_nil_left_iff]
      constructor
      · rintro rfl
        exact ⟨rfl, List.nil_prefix⟩
      · rintro ⟨rfl, -⟩
        rfl
  | case2 letter letters c rest isSpelled ih =>
      rw [Option.map_eq_some_iff, IsSpelling, List.forall₂_cons_left_iff]
      constructor
      · rintro ⟨more, spelledMore, rfl⟩
        obtain ⟨spelling, begins⟩ := ih.mp spelledMore
        exact ⟨⟨c, more, isSpelled, spelling, rfl⟩, (List.prefix_cons_inj c).mpr begins⟩
      · rintro ⟨⟨d, more, -, spelling, rfl⟩, begins⟩
        obtain ⟨rfl, beginsMore⟩ := List.cons_prefix_cons.mp begins
        exact ⟨more, ih.mpr ⟨spelling, beginsMore⟩, rfl⟩
  | case3 letter letters c rest notSpelled =>
      rw [IsSpelling, List.forall₂_cons_left_iff]
      refine iff_of_false (Option.some_ne_none _).symm ?_
      rintro ⟨⟨d, more, isSpelled, -, rfl⟩, begins⟩
      obtain ⟨rfl, -⟩ := List.cons_prefix_cons.mp begins
      exact notSpelled isSpelled
  | case4 letter letters =>
      rw [IsSpelling, List.forall₂_cons_left_iff, List.prefix_nil]
      refine iff_of_false (Option.some_ne_none _).symm ?_
      rintro ⟨⟨d, more, -, -, rfl⟩, isNil⟩
      simp at isNil

theorem wholeWord_coversText (nonempty : ∀ word ∈ words, word.toList ≠ []) :
    (wholeWord words).CoversText := by
  intro before rest covered matched
  obtain ⟨-, matched⟩ := Option.ite_none_right_eq_some.mp matched
  obtain ⟨word, isWord, isSpelled⟩ := List.exists_of_findSome?_eq_some matched
  obtain ⟨spelling, begins⟩ :=
    spelledWord?_eq_some_iff.mp (Option.filter_eq_some_iff.mp isSpelled).1
  refine ⟨?_, begins⟩
  rintro rfl
  exact nonempty word isWord (List.forall₂_nil_right_iff.mp spelling)

/-- A tag is suggested for the first word of its spelling that is not known and not inside a
marker. -/
theorem mem_suggestTags_iff {spans : List (Nat × Nat)} {known : List (List Char)}
    {found : List Found} :
    diagnostic ∈ suggestTags spans known found ↔
      ∃ front word back, found = front ++ word :: back ∧ lower word.text ∉ known ∧
        insideAnySpan word.position word.stop spans = false ∧
        (∀ earlier ∈ front, lower earlier.text = lower word.text →
          insideAnySpan earlier.position earlier.stop spans = true) ∧
        suggestTag word = diagnostic := by
  fun_induction suggestTags spans known found with
  | case1 known => simp
  | case2 known word rest passed ih =>
      rw [Bool.or_eq_true, List.contains_iff_mem] at passed
      rw [ih]
      constructor
      · rintro ⟨front, later, back, rfl, unknown, outside, first, suggested⟩
        refine ⟨word :: front, later, back, rfl, unknown, outside, ?_, suggested⟩
        refine List.forall_mem_cons.mpr ⟨fun sameWord => ?_, first⟩
        exact passed.resolve_left (sameWord ▸ unknown)
      · rintro ⟨front, later, back, cut, unknown, outside, first, suggested⟩
        cases front with
        | nil =>
            obtain ⟨rfl, -⟩ := List.cons.inj cut
            rw [outside] at passed
            exact absurd (passed.resolve_right Bool.false_ne_true) unknown
        | cons other front =>
            obtain ⟨rfl, rfl⟩ := List.cons.inj cut
            exact ⟨front, later, back, rfl, unknown, outside,
              (List.forall_mem_cons.mp first).2, suggested⟩
  | case3 known word rest passed ih =>
      rw [Bool.or_eq_true, not_or, List.contains_iff_mem, Bool.not_eq_true] at passed
      rw [List.mem_cons, ih]
      constructor
      · rintro (rfl | ⟨front, later, back, rfl, unknown, outside, first, suggested⟩)
        · exact ⟨[], word, rest, rfl, passed.1, passed.2, by simp, rfl⟩
        · rw [List.mem_cons, not_or] at unknown
          refine ⟨word :: front, later, back, rfl, unknown.2, outside, ?_, suggested⟩
          exact List.forall_mem_cons.mpr ⟨fun sameWord => absurd sameWord.symm unknown.1, first⟩
      · rintro ⟨front, later, back, cut, unknown, outside, first, suggested⟩
        cases front with
        | nil =>
            obtain ⟨rfl, -⟩ := List.cons.inj cut
            exact .inl suggested.symm
        | cons other front =>
            obtain ⟨rfl, rfl⟩ := List.cons.inj cut
            obtain ⟨firstHere, firstLater⟩ := List.forall_mem_cons.mp first
            refine .inr ⟨front, later, back, rfl, ?_, outside, firstLater, suggested⟩
            rw [List.mem_cons, not_or]
            refine ⟨fun sameWord => ?_, unknown⟩
            rw [firstHere sameWord.symm] at passed
            exact Bool.noConfusion passed.2

/-- A suggestion is about a word that a search finds. -/
theorem exists_word_of_mem_findSuggestions
    (member : diagnostic ∈ findSuggestions config text markers) :
    (∃ word : Found, word.Matches (wholeWord tagWords) text ∧ diagnostic = suggestTag word) ∨
      ∃ word : Found, word.Matches (wholeWord dayWords) text ∧ diagnostic = suggestDate word := by
  simp only [findSuggestions] at member
  split at member
  · simp at member
  rcases List.mem_append.mp member with suggestsTag | suggestsDate
  · obtain ⟨front, word, back, cut, -, -, -, suggested⟩ := mem_suggestTags_iff.mp suggestsTag
    have isFound : word ∈ (wholeWord tagWords).all text := by
      rw [cut]
      exact List.mem_append_right front List.mem_cons_self
    exact .inl ⟨word, Pattern.matches_of_mem_all isFound, suggested.symm⟩
  · simp only [dateSuggestion?] at suggestsDate
    split at suggestsDate
    · simp at suggestsDate
    · rw [Option.mem_toList, Option.map_eq_some_iff] at suggestsDate
      obtain ⟨word, isFound, suggested⟩ := suggestsDate
      exact .inr ⟨word, Pattern.matches_of_mem_all (List.mem_of_find?_eq_some isFound),
        suggested.symm⟩

theorem severity_of_mem_findSuggestions
    (member : diagnostic ∈ findSuggestions config text markers) :
    diagnostic.severity = .suggestion := by
  rcases exists_word_of_mem_findSuggestions member with ⟨word, -, rfl⟩ | ⟨word, -, rfl⟩
  · rfl
  · rfl

/-- What a suggestion can be. -/
inductive SuggestionFinding (text : List Char) (diagnostic : Diagnostic) : Prop where
  | tag (word : Found) (isWord : word.Matches (wholeWord tagWords) text)
      (reports : diagnostic.Reports .tagSuggestion word.position word.text
        ['[' :: (lower word.text ++ [']'])])
  | date (word : Found) (isWord : word.Matches (wholeWord dayWords) text)
      (reports : diagnostic.Reports .datePatternSuggestion word.position word.text
        ['@' :: lower word.text])

theorem findSuggestions_finding (member : diagnostic ∈ findSuggestions config text markers) :
    SuggestionFinding text diagnostic := by
  rcases exists_word_of_mem_findSuggestions member with ⟨word, isWord, rfl⟩ | ⟨word, isWord, rfl⟩
  · exact .tag word isWord (Diagnostic.reports_ofValue ..)
  · exact .date word isWord (Diagnostic.reports_ofValue ..)

theorem fits_of_mem_findSuggestions (member : diagnostic ∈ findSuggestions config text markers) :
    diagnostic.fits text.length = true := by
  cases findSuggestions_finding member with
  | tag word isWord reports => exact reports.fits_text isWord (wholeWord_coversText (by decide))
  | date word isWord reports => exact reports.fits_text isWord (wholeWord_coversText (by decide))

/-- After a fix of a suggestion, the same is not suggested at its place. -/
theorem findSuggestions_cleared {markersAgain : List Marker} {again : Diagnostic} {fix : QuickFix}
    (member : diagnostic ∈ findSuggestions config text markers)
    (inside : diagnostic.start ≤ text.length) (offered : fix ∈ diagnostic.fixes)
    (isAgain : again ∈ findSuggestions config (diagnostic.applyFix fix text) markersAgain)
    (sameCode : again.code = diagnostic.code) : again.start ≠ diagnostic.start := by
  cases findSuggestions_finding member with
  | tag word _ reports =>
      cases findSuggestions_finding isAgain with
      | tag wordAgain isWordAgain reportsAgain =>
          refine reports.start_ne reportsAgain inside isWordAgain fun before => ?_
          rw [reports.eq_of_mem offered]
          exact wholeWord_of_foreign (by decide) before _
      | date _ _ reportsAgain => simp [reportsAgain.code_eq, reports.code_eq] at sameCode
  | date word _ reports =>
      cases findSuggestions_finding isAgain with
      | tag _ _ reportsAgain => simp [reportsAgain.code_eq, reports.code_eq] at sameCode
      | date wordAgain isWordAgain reportsAgain =>
          refine reports.start_ne reportsAgain inside isWordAgain fun before => ?_
          rw [reports.eq_of_mem offered]
          exact wholeWord_of_foreign (by decide) before _

end InlineMarkers.Validation
