import InlineMarkers.Proofs.Text.Ascii
import InlineMarkers.Proofs.Text.Runs
import InlineMarkers.Proofs.Validation.SuggestionPass

/-!
# Words that stand whole in a note

A word stands whole where it is spelled with no other word character beside it.
Its spelling is made of word characters, so it is a whole run of them: two words
that stand whole are the same one or share no character, and a search for such
words misses none.
-/

namespace InlineMarkers.Validation

open Text

/-- One of some words is spelled. -/
def Spells (words : List String) (spelled : List Char) : Prop :=
  ∃ known ∈ words, IsSpelling known.toList spelled

/-- A word stands whole in a text: one of some words is spelled there, and the characters on
both sides of it, if any, are no word characters. -/
structure StandsWhole (words : List String) (text : List Char) (word : Found) : Prop where
  spelling : Spells words word.text
  stands : word.text <+: text.drop word.position
  opens : ∀ c ∈ (text.take word.position).getLast?, isWordCharacter c = false
  closes : ∀ c ∈ (text.drop word.stop).head?, isWordCharacter c = false

/-- Words of lower-case ASCII letters. -/
def AreLowerCase (words : List String) : Prop :=
  ∀ word ∈ words, word.toList ≠ [] ∧ word.toList.all Char.isLower = true

instance (words : List String) : Decidable (AreLowerCase words) :=
  inferInstanceAs (Decidable (∀ word ∈ words, _ ∧ _))

theorem areLowerCase_tagWords : AreLowerCase tagWords := by
  decide

theorem areLowerCase_dayWords : AreLowerCase dayWords := by
  decide

variable {words others : List String} {text before rest spelled letters : List Char}
  {known : String} {letter c : Char} {word other : Found}

theorem AreLowerCase.isLower (lowerCase : AreLowerCase words) (isKnown : known ∈ words)
    (isLetter : letter ∈ known.toList) : letter.isLower = true :=
  List.all_eq_true.mp (lowerCase known isKnown).2 letter isLetter

/-! ## Spellings -/

/-- The characters that spell a letter: the letter itself in either case, or one of four
letters of other scripts. -/
theorem cases_of_spells (isSpelled : spells letter c = true) :
    c.toLower = letter ∨ letter = 'i' ∧ (c = 'İ' ∨ c = 'ı') ∨ letter = 's' ∧ c = 'ſ' ∨
      letter = 'k' ∧ c = '\u212A' := by
  simpa only [spells, Bool.or_eq_true, Bool.and_eq_true, beq_iff_eq, or_assoc] using isSpelled

/-- The letter that a character spells, if it spells one. -/
def spelledLetter (c : Char) : Char :=
  if c = 'İ' ∨ c = 'ı' then 'i' else if c = 'ſ' then 's' else if c = '\u212A' then 'k'
  else c.toLower

theorem isAlpha_of_toLower_eq (isLower : letter.isLower = true) (lowered : c.toLower = letter) :
    c.isAlpha = true := by
  rw [← isAlpha_toLower, lowered]
  exact isAlpha_of_isLower isLower

theorem spelledLetter_of_isAlpha (isLetter : c.isAlpha = true) : spelledLetter c = c.toLower := by
  have foreign {d : Char} (outside : d.isAlpha = false) : c ≠ d := by
    rintro rfl
    rw [isLetter] at outside
    exact Bool.noConfusion outside
  rw [spelledLetter, if_neg (not_or.mpr ⟨foreign (by decide), foreign (by decide)⟩),
    if_neg (foreign (by decide)), if_neg (foreign (by decide))]

/-- A character spells one letter at most. -/
theorem spelledLetter_of_spells (isLower : letter.isLower = true)
    (isSpelled : spells letter c = true) : spelledLetter c = letter := by
  rcases cases_of_spells isSpelled with lowered | ⟨rfl, rfl | rfl⟩ | ⟨rfl, rfl⟩ | ⟨rfl, rfl⟩
  · rw [spelledLetter_of_isAlpha (isAlpha_of_toLower_eq isLower lowered), lowered]
  all_goals decide

theorem isWordCharacter_of_spells (isLower : letter.isLower = true)
    (isSpelled : spells letter c = true) : isWordCharacter c = true := by
  rcases cases_of_spells isSpelled with lowered | ⟨rfl, rfl | rfl⟩ | ⟨rfl, rfl⟩ | ⟨rfl, rfl⟩
  · exact isWordCharacter_of_isAlpha (isAlpha_of_toLower_eq isLower lowered)
  all_goals decide +kernel

namespace IsSpelling

theorem exists_letter (spelling : IsSpelling letters spelled) (member : c ∈ spelled) :
    ∃ letter ∈ letters, spells letter c = true := by
  induction spelling with
  | nil => simp at member
  | cons isSpelled _ ih =>
      rcases List.mem_cons.mp member with rfl | later
      · exact ⟨_, List.mem_cons_self, isSpelled⟩
      · obtain ⟨letter, isLetter, isSpelledLater⟩ := ih later
        exact ⟨letter, List.mem_cons_of_mem _ isLetter, isSpelledLater⟩

/-- The word is known from its spelling. -/
theorem map_spelledLetter (spelling : IsSpelling letters spelled)
    (lowerCase : ∀ letter ∈ letters, letter.isLower = true) :
    spelled.map spelledLetter = letters := by
  induction spelling with
  | nil => rfl
  | cons isSpelled _ ih =>
      obtain ⟨isLower, lowerCase⟩ := List.forall_mem_cons.mp lowerCase
      rw [List.map_cons, spelledLetter_of_spells isLower isSpelled, ih lowerCase]

end IsSpelling

theorem Spells.ne_nil (spelling : Spells words spelled) (lowerCase : AreLowerCase words) :
    spelled ≠ [] := by
  obtain ⟨known, isKnown, spelling⟩ := spelling
  rintro rfl
  exact (lowerCase known isKnown).1 (List.forall₂_nil_right_iff.mp spelling)

theorem Spells.isWordCharacter (spelling : Spells words spelled) (lowerCase : AreLowerCase words)
    (member : c ∈ spelled) : Text.isWordCharacter c = true := by
  obtain ⟨known, isKnown, spelling⟩ := spelling
  obtain ⟨letter, isLetter, isSpelled⟩ := spelling.exists_letter member
  exact isWordCharacter_of_spells (lowerCase.isLower isKnown isLetter) isSpelled

theorem Spells.map_spelledLetter_mem (spelling : Spells words spelled)
    (lowerCase : AreLowerCase words) : spelled.map spelledLetter ∈ words.map String.toList := by
  obtain ⟨known, isKnown, spelling⟩ := spelling
  rw [spelling.map_spelledLetter fun _ => lowerCase.isLower isKnown]
  exact List.mem_map_of_mem isKnown

/-- No text spells a tag word and a day word. -/
theorem not_spells_dayWords (spelling : Spells tagWords spelled) : ¬Spells dayWords spelled := by
  intro spellsDay
  have noDay : ∀ letters ∈ tagWords.map String.toList, letters ∉ dayWords.map String.toList := by
    decide
  exact noDay _ (spelling.map_spelledLetter_mem areLowerCase_tagWords)
    (spellsDay.map_spelledLetter_mem areLowerCase_dayWords)

/-! ## What the search for whole words matches -/

/-- A word is spelled at the start of a text, and the characters beside it are no word
characters. -/
structure SpellsWhole (words : List String) (before rest spelled : List Char) : Prop where
  spelling : Spells words spelled
  begins : spelled <+: rest
  opens : ∀ c ∈ before.head?, isWordCharacter c = false
  closes : ∀ c ∈ (rest.drop spelled.length).head?, isWordCharacter c = false

theorem any_eq_false_iff {beside : Option Char} :
    beside.any isWordCharacter = false ↔ ∀ c ∈ beside, isWordCharacter c = false := by
  cases beside <;> simp

theorem any_of_mem {beside : Option Char} (member : c ∈ beside)
    (isWord : isWordCharacter c = true) : beside.any isWordCharacter = true := by
  obtain rfl := Option.mem_def.mp member
  exact isWord

/-- The word that stands whole is the whole run of word characters. -/
theorem SpellsWhole.eq_takeWhile (whole : SpellsWhole words before rest spelled)
    (lowerCase : AreLowerCase words) : rest.takeWhile isWordCharacter = spelled := by
  have parts := List.prefix_iff_eq_append.mp whole.begins
  rw [← parts]
  exact takeWhile_append_of_head (fun _ => whole.spelling.isWordCharacter lowerCase) whole.closes

theorem isWordBoundary_iff (before : List Char) (lowerCase : AreLowerCase words)
    (spelling : Spells words spelled) (begins : spelled <+: rest) :
    (isWordBoundary before.head? rest.head? = true ↔
      ∀ c ∈ before.head?, isWordCharacter c = false) ∧
    (isWordBoundary spelled.getLast? (rest.drop spelled.length).head? = true ↔
      ∀ c ∈ (rest.drop spelled.length).head?, isWordCharacter c = false) := by
  have nonempty := spelling.ne_nil lowerCase
  have first : rest.head?.any isWordCharacter = true := by
    obtain ⟨c, more, rfl⟩ := List.exists_cons_of_ne_nil nonempty
    obtain ⟨behind, rfl⟩ := begins
    exact spelling.isWordCharacter lowerCase List.mem_cons_self
  have last : spelled.getLast?.any isWordCharacter = true :=
    any_of_mem (List.getLast?_eq_some_getLast nonempty)
      (spelling.isWordCharacter lowerCase (List.getLast_mem nonempty))
  rw [← any_eq_false_iff, ← any_eq_false_iff, isWordBoundary, isWordBoundary, first, last]
  constructor
  · cases before.head?.any isWordCharacter <;> decide
  · cases (rest.drop spelled.length).head?.any isWordCharacter <;> decide

theorem wholeWord_eq_some_iff (lowerCase : AreLowerCase words) :
    wholeWord words before rest = some spelled ↔ SpellsWhole words before rest spelled := by
  have sound {found : List Char} (matched : wholeWord words before rest = some found) :
      SpellsWhole words before rest found := by
    obtain ⟨opens, matched⟩ := Option.ite_none_right_eq_some.mp matched
    obtain ⟨known, isKnown, isFound⟩ := List.exists_of_findSome?_eq_some matched
    obtain ⟨isSpelled, closes⟩ := Option.filter_eq_some_iff.mp isFound
    obtain ⟨spelling, begins⟩ := spelledWord?_eq_some_iff.mp isSpelled
    have boundaries := isWordBoundary_iff before lowerCase ⟨known, isKnown, spelling⟩ begins
    exact ⟨⟨known, isKnown, spelling⟩, begins, boundaries.1.mp opens, boundaries.2.mp closes⟩
  refine ⟨sound, fun whole => ?_⟩
  obtain ⟨opens, closes⟩ := isWordBoundary_iff before lowerCase whole.spelling whole.begins
  obtain ⟨known, isKnown, spelling⟩ := whole.spelling
  -- the first known word that fits may be another one, but its spelling is the same run
  have isFound : (wholeWord words before rest).isSome = true := by
    rw [wholeWord, if_pos (opens.mpr whole.opens), List.findSome?_isSome_iff]
    refine ⟨known, isKnown, ?_⟩
    rw [spelledWord?_eq_some_iff.mpr ⟨spelling, whole.begins⟩, Option.filter_some,
      if_pos (closes.mpr whole.closes)]
    rfl
  obtain ⟨found, matched⟩ := Option.isSome_iff_exists.mp isFound
  rw [matched, ← (sound matched).eq_takeWhile lowerCase, whole.eq_takeWhile lowerCase]

theorem standsWhole_iff (lowerCase : AreLowerCase words) :
    word.Matches (wholeWord words) text ↔ StandsWhole words text word := by
  rw [Found.Matches, wholeWord_eq_some_iff lowerCase]
  constructor
  · rintro ⟨spelling, begins, opens, closes⟩
    rw [List.head?_reverse] at opens
    rw [List.drop_drop] at closes
    exact ⟨spelling, begins, opens, closes⟩
  · rintro ⟨spelling, begins, opens, closes⟩
    refine ⟨spelling, begins, ?_, ?_⟩
    · rwa [List.head?_reverse]
    · rwa [List.drop_drop]

/-! ## Two words of one text -/

namespace StandsWhole

/-- A word that stands whole holds the characters of the text from its place on. -/
theorem getElem?_eq (whole : StandsWhole words text word) {index : Nat}
    (starts : word.position ≤ index) (stops : index < word.stop) :
    ∃ c ∈ word.text, text[index]? = some c := by
  rw [Found.stop] at stops
  obtain ⟨rest, parts⟩ := whole.stands
  have inside : index - word.position < word.text.length := by omega
  refine ⟨word.text[index - word.position], List.getElem_mem inside, ?_⟩
  calc
    text[index]? = (text.drop word.position)[index - word.position]? := by
      rw [List.getElem?_drop, Nat.add_sub_cancel' starts]
    _ = some word.text[index - word.position] := by
      rw [← parts, List.getElem?_append_left inside, List.getElem?_eq_getElem inside]

/-- No word stands whole inside another one. -/
theorem stop_le (whole : StandsWhole words text word) (lowerCase : AreLowerCase words)
    (wholeOther : StandsWhole others text other) (behind : word.position < other.position) :
    word.stop ≤ other.position := by
  by_contra inside
  have starts : word.position ≤ other.position - 1 := by omega
  obtain ⟨c, member, isBefore⟩ := whole.getElem?_eq starts (by omega)
  have opens := wholeOther.opens c (by rw [List.getLast?_take, if_neg (by omega), isBefore]; rfl)
  rw [whole.spelling.isWordCharacter lowerCase member] at opens
  exact Bool.noConfusion opens

/-- Words that stand whole at one place are the same one. -/
theorem eq_of_position (whole : StandsWhole words text word) (lowerCase : AreLowerCase words)
    (wholeOther : StandsWhole others text other) (lowerCaseOthers : AreLowerCase others)
    (same : word.position = other.position) : word = other := by
  have run := (wholeWord_eq_some_iff lowerCase).mp ((standsWhole_iff lowerCase).mpr whole)
  have runOther :=
    (wholeWord_eq_some_iff lowerCaseOthers).mp ((standsWhole_iff lowerCaseOthers).mpr wholeOther)
  have sameText : word.text = other.text := by
    rw [← run.eq_takeWhile lowerCase, ← runOther.eq_takeWhile lowerCaseOthers, same]
  cases word
  cases other
  exact (Found.mk.injEq ..).mpr ⟨same, sameText⟩

/-- Two words that stand whole are the same one or share no character. -/
theorem eq_or_apart (whole : StandsWhole words text word) (lowerCase : AreLowerCase words)
    (wholeOther : StandsWhole others text other) (lowerCaseOthers : AreLowerCase others) :
    word = other ∨ word.stop ≤ other.position ∨ other.stop ≤ word.position := by
  rcases Nat.lt_trichotomy word.position other.position with before | same | behind
  · exact .inr (.inl (whole.stop_le lowerCase wholeOther before))
  · exact .inl (whole.eq_of_position lowerCase wholeOther lowerCaseOthers same)
  · exact .inr (.inr (wholeOther.stop_le lowerCaseOthers whole behind))

end StandsWhole

theorem wholeWord_apart (lowerCase : AreLowerCase words) : (wholeWord words).Apart := by
  intro text first second isFirst isSecond behind
  rw [standsWhole_iff lowerCase] at isFirst isSecond
  exact isFirst.stop_le lowerCase isSecond behind

/-- The search for whole words finds them all. -/
theorem mem_all_wholeWord_iff (lowerCase : AreLowerCase words) :
    word ∈ (wholeWord words).all text ↔ StandsWhole words text word := by
  rw [← standsWhole_iff lowerCase]
  exact Pattern.mem_all_iff (wholeWord_coversText fun known isKnown => (lowerCase known isKnown).1)
    (wholeWord_apart lowerCase)

end InlineMarkers.Validation
