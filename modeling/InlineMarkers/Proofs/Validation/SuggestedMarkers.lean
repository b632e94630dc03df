import InlineMarkers.Proofs.Validation.DateLanguage
import InlineMarkers.Proofs.Validation.NotePasses
import InlineMarkers.Proofs.Validation.WholeWords

/-!
# The markers that suggestions make

A suggested tag, scanned on its own, is a tag with which nothing is wrong.  A
suggested date is one only when the word is written in ASCII: the words are
searched with spellings by letters of other scripts, some of which stay outside
of ASCII in lower case, and the name of a date ends in front of such a letter.
-/

namespace InlineMarkers.Validation

open Text Tokenizer Calendar

variable {config : MarkerConfig} {words : List String} {text spelled letters : List Char}
  {known : String} {letter c d : Char} {word : Found} {kind : MarkerKind} {marker : Marker}
  {markers : List Marker} {diagnostic : Diagnostic}

/-- Scanned on its own, a text is one marker of a kind.  It covers the whole text, and under the
standard settings nothing is wrong with it. -/
structure ReadsAs (kind : MarkerKind) (text : List Char) (marker : Marker) : Prop where
  scanned : ∀ limit, scan limit text = [marker]
  kind_eq : marker.kind = kind
  covers : marker.span = (0, text.length)
  flawless : ∀ today, validateMarker noFaults .standard today marker = none

/-- A letter of ASCII, or one of the characters outside of it that a spelling has in lower
case: the dot that an I keeps, an I without a dot, and a long S. -/
def IsSpelledLower (c : Char) : Prop :=
  c.isAlpha = true ∨ c = '\u0307' ∨ c = 'ı' ∨ c = 'ſ'

namespace IsSpelledLower

theorem ne (lowered : IsSpelledLower c) (noLetter : d.isAlpha = false)
    (other : d ∉ ['\u0307', 'ı', 'ſ']) : c ≠ d := by
  rintro rfl
  rcases lowered with letter | foreign
  · rw [noLetter] at letter
    exact Bool.noConfusion letter
  · exact other (by simpa using foreign)

theorem isBlank_eq (lowered : IsSpelledLower c) : isBlank c = false := by
  rcases lowered with letter | rfl | rfl | rfl
  · exact isBlank_of_isAlphanum (isAlphanum_iff.mpr (.inl letter))
  all_goals decide

theorem isForbiddenInTag_eq (lowered : IsSpelledLower c) : isForbiddenInTag c = false := by
  have other {d : Char} := lowered.ne (d := d)
  simp only [isForbiddenInTag, Bool.or_eq_false_iff, beq_eq_false_iff_ne]
  exact ⟨⟨⟨other (by decide) (by decide), other (by decide) (by decide)⟩,
    other (by decide) (by decide)⟩, other (by decide) (by decide)⟩

end IsSpelledLower

/-! ## The lower case of a spelling -/

/-- The lower case of a character that spells a letter. -/
theorem lowerCharacter_of_spells (isLower : letter.isLower = true)
    (isSpelled : spells letter c = true) :
    lowerCharacter c = [letter] ∨ lowerCharacter c = ['i', '\u0307'] ∨
      lowerCharacter c = ['ı'] ∨ lowerCharacter c = ['ſ'] := by
  rcases cases_of_spells isSpelled with lowered | ⟨-, rfl | rfl⟩ | ⟨-, rfl⟩ | ⟨rfl, rfl⟩
  · have ascii := toNat_lt_of_isAlpha (isAlpha_of_toLower_eq isLower lowered)
    exact .inl (by rw [lowerCharacter_of_ascii ascii, lowered])
  · exact .inr (.inl (by decide +kernel))
  · exact .inr (.inr (.inl (by decide +kernel)))
  · exact .inr (.inr (.inr (by decide +kernel)))
  · exact .inl (by decide +kernel)

theorem mem_lowerCharacter_of_spells (isLower : letter.isLower = true)
    (isSpelled : spells letter c = true) (member : d ∈ lowerCharacter c) : IsSpelledLower d := by
  rcases lowerCharacter_of_spells isLower isSpelled with lowered | lowered | lowered | lowered
  · rw [lowered, List.mem_singleton] at member
    exact .inl (member ▸ isAlpha_of_isLower isLower)
  · rw [lowered, List.mem_pair] at member
    rcases member with rfl | rfl
    · exact .inl (by decide)
    · exact .inr (.inl rfl)
  · rw [lowered, List.mem_singleton] at member
    exact .inr (.inr (.inl member))
  · rw [lowered, List.mem_singleton] at member
    exact .inr (.inr (.inr member))

theorem length_lowerCharacter_of_spells (isLower : letter.isLower = true)
    (isSpelled : spells letter c = true) :
    1 ≤ (lowerCharacter c).length ∧ (lowerCharacter c).length ≤ 2 := by
  rcases lowerCharacter_of_spells isLower isSpelled with lowered | lowered | lowered | lowered <;>
    simp [lowered]

/-- Outside of ASCII only the sign for a K has a lower case in ASCII. -/
theorem exists_foreign_of_spells (isLower : letter.isLower = true)
    (isSpelled : spells letter c = true) (notK : letter ≠ 'k') (foreign : ¬c.toNat < 0x80) :
    ∃ d ∈ lowerCharacter c, ¬d.toNat < 0x80 := by
  rcases cases_of_spells isSpelled with lowered | ⟨-, rfl | rfl⟩ | ⟨-, rfl⟩ | ⟨rfl, -⟩
  · exact absurd (toNat_lt_of_isAlpha (isAlpha_of_toLower_eq isLower lowered)) foreign
  · exact ⟨'\u0307', by decide +kernel, by decide⟩
  · exact ⟨'ı', by decide +kernel, by decide⟩
  · exact ⟨'ſ', by decide +kernel, by decide⟩
  · exact absurd rfl notK

theorem ne_sigma_of_spells (isLower : letter.isLower = true) (isSpelled : spells letter c = true) :
    c ≠ 'Σ' := by
  rintro rfl
  rcases cases_of_spells isSpelled with lowered | ⟨-, same | same⟩ | ⟨-, same⟩ | ⟨-, same⟩
  · exact absurd (isAlpha_of_toLower_eq isLower lowered) (by decide)
  all_goals exact absurd same (by decide)

theorem toLower_of_spells (isSpelled : spells letter c = true) (ascii : c.toNat < 0x80) :
    c.toLower = letter := by
  rcases cases_of_spells isSpelled with lowered | ⟨-, rfl | rfl⟩ | ⟨-, rfl⟩ | ⟨-, rfl⟩
  · exact lowered
  all_goals exact absurd ascii (by decide)

namespace IsSpelling

variable (spelling : IsSpelling letters spelled)
  (lowerCase : ∀ letter ∈ letters, letter.isLower = true)

include spelling lowerCase

theorem lower_eq : lower spelled = spelled.flatMap lowerCharacter := by
  refine lowerAfter_of_noSigma (fun member => ?_) false
  obtain ⟨letter, isLetter, isSpelled⟩ := spelling.exists_letter member
  exact ne_sigma_of_spells (lowerCase letter isLetter) isSpelled rfl

theorem isSpelledLower_of_mem (member : d ∈ lower spelled) : IsSpelledLower d := by
  rw [spelling.lower_eq lowerCase, List.mem_flatMap] at member
  obtain ⟨c, inWord, isLowered⟩ := member
  obtain ⟨letter, isLetter, isSpelled⟩ := spelling.exists_letter inWord
  exact mem_lowerCharacter_of_spells (lowerCase letter isLetter) isSpelled isLowered

/-- A capital I with a dot is two characters in lower case. -/
theorem length_lower : letters.length ≤ (lower spelled).length ∧
    (lower spelled).length ≤ 2 * letters.length := by
  rw [spelling.lower_eq lowerCase]
  induction spelling with
  | nil => exact ⟨Nat.le_refl _, Nat.le_refl _⟩
  | cons isSpelled _ ih =>
      obtain ⟨isLower, lowerCase⟩ := List.forall_mem_cons.mp lowerCase
      have first := length_lowerCharacter_of_spells isLower isSpelled
      have rest := ih lowerCase
      rw [List.flatMap_cons, List.length_append, List.length_cons]
      omega

/-- Without a K, a word is in ASCII when its lower case is. -/
theorem ascii_of_lower (notK : 'k' ∉ letters) (ascii : ∀ d ∈ lower spelled, d.toNat < 0x80) :
    ∀ c ∈ spelled, c.toNat < 0x80 := by
  intro c member
  by_contra foreign
  obtain ⟨letter, isLetter, isSpelled⟩ := spelling.exists_letter member
  obtain ⟨d, isLowered, foreignLowered⟩ := exists_foreign_of_spells
    (lowerCase letter isLetter) isSpelled (fun isK => notK (isK ▸ isLetter)) foreign
  rw [spelling.lower_eq lowerCase] at ascii
  exact foreignLowered (ascii d (List.mem_flatMap.mpr ⟨c, member, isLowered⟩))

omit lowerCase in
theorem lower_of_ascii (ascii : ∀ c ∈ spelled, c.toNat < 0x80) : lower spelled = letters := by
  rw [Text.lower_of_ascii ascii]
  induction spelling with
  | nil => rfl
  | cons isSpelled _ ih =>
      obtain ⟨asciiFirst, ascii⟩ := List.forall_mem_cons.mp ascii
      rw [List.map_cons, toLower_of_spells isSpelled asciiFirst, ih ascii]

end IsSpelling

/-! ## Markers on their own -/

theorem readsAs_of_token {lexeme : Lexeme} {more : Char → Bool} (token : Token lexeme text more)
    (reported : lexeme.isReported = true)
    (flawless : ∀ today, validateMarker noFaults .standard today (lexeme.toMarker 0) = none) :
    ReadsAs lexeme.kind text (lexeme.toMarker 0) where
  scanned := fun limit => by
    rw [scan_eq_tokenize, tokenize_of_token token, report, if_pos reported]
  kind_eq := rfl
  covers := by simp only [Marker.span, Lexeme.toMarker, Nat.zero_add, token.length_eq]
  flawless := flawless

/-- The name or the numbers of a date are in ASCII. -/
theorem ascii_of_date_token {lexeme : Lexeme} {more : Char → Bool} (token : Token lexeme text more)
    (isDate : lexeme.kind = .date) : ∀ c ∈ text, c.toNat < 0x80 := by
  cases token with
  | named starts inside =>
      refine List.forall_mem_cons.mpr ⟨by decide, List.forall_mem_cons.mpr ⟨?_, ?_⟩⟩
      · exact toNat_lt_of_isAlpha starts
      · exact fun c member => (DateForm.isSolid_of_isNameCharacter (inside c member)).1
  | numeric starts inside =>
      refine List.forall_mem_cons.mpr ⟨by decide, List.forall_mem_cons.mpr ⟨?_, ?_⟩⟩
      · exact toNat_lt_of_isAlphanum (isAlphanum_iff.mpr (.inr starts))
      · exact fun c member => (DateForm.isSolid_of_isDateCharacter (inside c member)).1
  | _ => simp at isDate

/-- A marker that covers a whole text is a token of all its characters. -/
theorem ReadsAs.exists_token (reads : ReadsAs kind text marker) :
    ∃ lexeme more, Token lexeme text more ∧ lexeme.kind = kind := by
  have scanned := reads.scanned 0
  rw [scan_eq_tokenize] at scanned
  obtain ⟨before, body, rest, more, lexeme, rfl, token, -, -, rfl⟩ :=
    exists_token_of_mem (scanned ▸ List.mem_singleton_self marker)
  have covers := reads.covers
  have size := token.length_eq
  simp only [Marker.span, Lexeme.toMarker, Prod.mk.injEq, List.length_append] at covers
  obtain rfl : before = [] := List.length_eq_zero_iff.mp covers.1
  obtain rfl : rest = [] := List.length_eq_zero_iff.mp (by omega)
  rw [List.nil_append, List.append_nil]
  exact ⟨lexeme, more, token, reads.kind_eq⟩

/-- The content of a tag that is made of letters, some of them outside of ASCII. -/
theorem readsAs_tag {content : List Char} (nonempty : content ≠ [])
    (short : content.length ≤ MarkerConfig.standard.maxTagLength)
    (inside : ∀ c ∈ content, IsSpelledLower c) :
    ∃ marker, ReadsAs .tag ('[' :: (content ++ [']'])) marker := by
  have filled : trim content ≠ [] := by
    rwa [trim_of_no_blanks fun c member => (inside c member).isBlank_eq]
  have allowed : content.any isForbiddenInTag = false := by
    rw [List.any_eq_false]
    intro c member
    rw [(inside c member).isForbiddenInTag_eq]
    exact Bool.false_ne_true
  refine ⟨_, readsAs_of_token (.tag fun member => ?_) rfl fun today => ?_⟩
  · exact (inside ']' member).ne (by decide) (by decide) rfl
  · exact diagnose_of_checkValue (congrArg Except.ok (checkTag_eq_none filled allowed short))

/-- An at sign in front of a keyword of letters is a date. -/
theorem readsAs_date {name : List Char} (nonempty : name ≠ [])
    (inside : ∀ c ∈ name, c.isLower = true) (keyword : isDateKeyword name = true) :
    ∃ marker, ReadsAs .date ('@' :: name) marker ∧ isDateKeyword marker.value = true := by
  have letters : ∀ c ∈ name, c.isAlpha = true := fun c member =>
    isAlpha_of_isLower (inside c member)
  obtain ⟨first, run, rfl⟩ := List.exists_cons_of_ne_nil nonempty
  obtain ⟨starts, lettersRun⟩ := List.forall_mem_cons.mp letters
  refine ⟨_, readsAs_of_token (.named starts fun c member => ?_) rfl fun today => ?_, keyword⟩
  · rw [Lexeme.isNameCharacter, isAlphanum_iff.mpr (.inl (lettersRun c member)), Bool.true_or]
  · exact diagnose_of_checkValue (checkDate_keyword keyword _)

/-! ## Suggestions -/

theorem readsAs_tag_of_spells (spelling : Spells tagWords spelled) :
    ∃ marker, ReadsAs .tag ('[' :: (lower spelled ++ [']'])) marker := by
  obtain ⟨known, isKnown, spelling⟩ := spelling
  have lowerCase : ∀ letter ∈ known.toList, letter.isLower = true := fun _ =>
    areLowerCase_tagWords.isLower isKnown
  have room : ∀ known ∈ tagWords,
      2 * known.toList.length ≤ MarkerConfig.standard.maxTagLength := by decide +kernel
  obtain ⟨filled, bounded⟩ := spelling.length_lower lowerCase
  have solid := List.length_pos_iff.mpr (areLowerCase_tagWords known isKnown).1
  exact readsAs_tag (List.length_pos_iff.mp (by omega)) (bounded.trans (room known isKnown))
    fun c => spelling.isSpelledLower_of_mem lowerCase

theorem readsAs_date_iff_of_spells (spelling : Spells dayWords spelled) :
    (∃ marker, ReadsAs .date ('@' :: lower spelled) marker ∧ isDateKeyword marker.value = true) ↔
      ∀ c ∈ spelled, c.toNat < 0x80 := by
  obtain ⟨known, isKnown, spelling⟩ := spelling
  have lowerCase : ∀ letter ∈ known.toList, letter.isLower = true := fun _ =>
    areLowerCase_dayWords.isLower isKnown
  constructor
  · rintro ⟨marker, reads, -⟩
    have noK : ∀ known ∈ dayWords, 'k' ∉ known.toList := by decide
    obtain ⟨lexeme, more, token, isDate⟩ := reads.exists_token
    refine spelling.ascii_of_lower lowerCase (noK known isKnown) fun c member => ?_
    exact ascii_of_date_token token isDate c (List.mem_cons_of_mem _ member)
  · intro ascii
    have keywords : ∀ known ∈ dayWords, isDateKeyword known.toList = true := by decide +kernel
    rw [spelling.lower_of_ascii ascii]
    exact readsAs_date (areLowerCase_dayWords known isKnown).1 lowerCase (keywords known isKnown)

/-- What a match covers is the slice of the text at its place. -/
theorem slice_of_matches {pattern : Pattern} (isMatch : word.Matches pattern text)
    (covers : pattern.CoversText) : slice text word.position word.stop = word.text := by
  obtain ⟨rest, parts⟩ := (covers _ _ _ isMatch).2
  rw [slice, ← parts, Found.stop, Nat.add_sub_cancel_left, List.take_left]

/-- What takes the place of a suggested tag word is a tag on its own.  What takes the place of a
suggested day word is a date on its own, and a keyword, exactly when the word is written in
ASCII. -/
theorem findSuggestions_readsAs (config : MarkerConfig) (text : List Char)
    (markers : List Marker) :
    (∀ diagnostic ∈ findSuggestions config text markers,
      diagnostic.code = some .tagSuggestion →
        ∃ replacement marker, diagnostic.suggestion = some replacement ∧
          ReadsAs .tag replacement marker) ∧
    ∀ diagnostic ∈ findSuggestions config text markers,
      diagnostic.code = some .datePatternSuggestion →
        ∃ replacement, diagnostic.suggestion = some replacement ∧
          ((∃ marker, ReadsAs .date replacement marker ∧ isDateKeyword marker.value = true) ↔
            ∀ c ∈ slice text diagnostic.start.toNat diagnostic.stop.toNat, c.toNat < 0x80) := by
  have whole {words : List String} {word : Found} (lowerCase : AreLowerCase words)
      (isMatch : word.Matches (wholeWord words) text) : Spells words word.text :=
    ((standsWhole_iff lowerCase).mp isMatch).spelling
  constructor
  · intro diagnostic member isTag
    rcases exists_word_of_mem_findSuggestions member with
      ⟨word, isMatch, rfl⟩ | ⟨word, isMatch, rfl⟩
    · obtain ⟨marker, reads⟩ := readsAs_tag_of_spells (whole areLowerCase_tagWords isMatch)
      exact ⟨_, marker, rfl, reads⟩
    · simp [suggestDate, Diagnostic.ofValue] at isTag
  · intro diagnostic member isDate
    rcases exists_word_of_mem_findSuggestions member with
      ⟨word, isMatch, rfl⟩ | ⟨word, isMatch, rfl⟩
    · simp [suggestTag, Diagnostic.ofValue] at isDate
    · have flagged : slice text (suggestDate word).start.toNat (suggestDate word).stop.toNat =
          word.text :=
        slice_of_matches isMatch (wholeWord_coversText (by decide))
      refine ⟨_, rfl, ?_⟩
      rw [flagged]
      exact readsAs_date_iff_of_spells (whole areLowerCase_dayWords isMatch)

/-- A tag word and a day word in capitals. -/
theorem findSuggestions_readsAs_capitals :
    let note := "Urgent FRIDAY".toList
    let suggestions := findSuggestions .standard note (scan MarkerConfig.standard.tagScanLimit note)
    suggestions = [suggestTag ⟨0, "Urgent".toList⟩, suggestDate ⟨7, "FRIDAY".toList⟩] ∧
      (∃ marker, ReadsAs .tag "[urgent]".toList marker) ∧
      ∃ marker, ReadsAs .date "@friday".toList marker ∧ isDateKeyword marker.value = true := by
  intro note suggestions
  have found : suggestions =
      [suggestTag ⟨0, "Urgent".toList⟩, suggestDate ⟨7, "FRIDAY".toList⟩] := by
    decide +kernel
  have isTagFound : suggestTag ⟨0, "Urgent".toList⟩ ∈ suggestions := by
    rw [found]
    exact List.mem_cons_self
  have isDateFound : suggestDate ⟨7, "FRIDAY".toList⟩ ∈ suggestions := by
    rw [found]
    exact List.mem_cons_of_mem _ List.mem_cons_self
  have ascii : (slice note 7 13).all (·.toNat < 0x80) = true := by decide +kernel
  obtain ⟨tags, dates⟩ := findSuggestions_readsAs .standard note
    (scan MarkerConfig.standard.tagScanLimit note)
  obtain ⟨tag, marker, isTag, reads⟩ := tags _ isTagFound rfl
  obtain ⟨date, isDate, isRead⟩ := dates _ isDateFound rfl
  obtain rfl : "[urgent]".toList = tag := Option.some.inj (Eq.trans (by decide +kernel) isTag)
  obtain rfl : "@friday".toList = date := Option.some.inj (Eq.trans (by decide +kernel) isDate)
  exact ⟨found, ⟨marker, reads⟩,
    isRead.mpr fun c member => of_decide_eq_true (List.all_eq_true.mp ascii c member)⟩

/-- A long S begins no name of a date. -/
theorem findSuggestions_readsAs_no_date :
    let note := "ſunday".toList
    let limit := MarkerConfig.standard.tagScanLimit
    (findSuggestions .standard note (scan limit note)).map
        (fun suggestion => (suggestion.code, suggestion.suggestion)) =
      [(some .datePatternSuggestion, some "@ſunday".toList)] ∧
    scan limit "@ſunday".toList = [] := by
  decide +kernel

end InlineMarkers.Validation
