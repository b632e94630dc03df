import InlineMarkers.Marker.Lexeme
import InlineMarkers.Proofs.Text.Ascii
import InlineMarkers.Proofs.Text.Runs

/-!
# A tokenizer without a limit

The grammar of markers, stated for a walk that looks at one place of a text after
another.  A tag closes at the first closing bracket, however far away that is, so
nothing has to be remembered between two places: the tokens of a text depend on
the text alone.  The scanner is proved to find the same markers.
-/

namespace InlineMarkers

open Text Lexeme

namespace Tokenizer

/-- The tag behind an opening bracket: everything up to the first closing bracket. -/
def tag? (rest : List Char) : Option Lexeme :=
  if rest.contains ']' then some ⟨.tag, 1, rest.takeWhile (· != ']'), 1⟩ else none

/-- The priority behind a number sign: a run of letters that is not empty. -/
def priority? (rest : List Char) : Option Lexeme :=
  let word := rest.takeWhile Char.isAlpha
  if word.isEmpty then none else some ⟨.priority, 1, word, 0⟩

/-- The date behind an at sign: a letter and a run of word characters, or a digit and a run
of digits, slashes and hyphens. -/
def date? : List Char → Option Lexeme
  | [] => none
  | first :: rest =>
      if first.isAlpha then some ⟨.date, 1, first :: rest.takeWhile isNameCharacter, 0⟩
      else if first.isDigit then some ⟨.date, 1, first :: rest.takeWhile isDateCharacter, 0⟩
      else none

/-- The address that follows a user name directly: an at sign and everything up to the next
blank. -/
def address : List Char → List Char
  | [] => []
  | c :: rest => if c = '@' then c :: rest.takeWhile (!isBlank ·) else []

/-- The assignee behind a plus sign: a run of name characters that is not empty, and an
address that may follow it. -/
def assignee? (rest : List Char) : Option Lexeme :=
  let name := rest.takeWhile isAssigneeCharacter
  if name.isEmpty then none
  else some ⟨.assignee, 1, name, (address (rest.drop name.length)).length⟩

/-- The colour that starts a text: its opening in any case and a run that may be empty. -/
def color? (text : List Char) : Option Lexeme :=
  if startsColor text then some ⟨.color, 6, (text.drop 6).takeWhile isColorCharacter, 0⟩
  else none

/-- The token that starts a text. -/
def read? : List Char → Option Lexeme
  | [] => none
  | c :: rest =>
      if c = '[' then tag? rest
      else if c = '#' then priority? rest
      else if c = '@' then date? rest
      else if c = '+' then assignee? rest
      else color? (c :: rest)

/-- The marker that a token is reported as, unless it is a colour word on its own. -/
def report (position : Nat) (lexeme : Lexeme) : List Marker :=
  if lexeme.isReported then [lexeme.toMarker position] else []

/-- The markers of a text that stands at `position`: the walk goes on behind a token where
there is one and by one character where there is none. -/
def walkFrom (position : Nat) : List Char → List Marker
  | [] => []
  | c :: rest =>
      match read? (c :: rest) with
      | none => walkFrom (position + 1) rest
      | some lexeme =>
          report position lexeme ++
            walkFrom (position + lexeme.length) (rest.drop (lexeme.length - 1))
termination_by text => text.length

/-- The markers of a text. -/
def tokenize (text : List Char) : List Marker :=
  walkFrom 0 text

/-! ## What a token looks like -/

theorem startsColor_length {text : List Char} (starts : startsColor text = true) :
    6 ≤ text.length := by
  simp only [startsColor, MarkerKind.opening, beq_iff_eq] at starts
  have sameLength := congrArg List.length starts
  simp only [List.length_map, List.length_take, List.length_cons, List.length_nil] at sameLength
  omega

/-- A token with the characters that it covers and the class of those that would make it
longer. -/
inductive Token : Lexeme → List Char → (Char → Bool) → Prop where
  | tag {value : List Char} (unclosed : ']' ∉ value) :
      Token ⟨.tag, 1, value, 1⟩ ('[' :: (value ++ [']'])) fun _ => false
  | color {opening value : List Char} (size : opening.length = 6)
      (starts : startsColor opening = true) (inside : ∀ c ∈ value, isColorCharacter c = true) :
      Token ⟨.color, 6, value, 0⟩ (opening ++ value) isColorCharacter
  | priority {word : List Char} (nonempty : word ≠ []) (inside : ∀ c ∈ word, c.isAlpha = true) :
      Token ⟨.priority, 1, word, 0⟩ ('#' :: word) Char.isAlpha
  | named {first : Char} {run : List Char} (starts : first.isAlpha = true)
      (inside : ∀ c ∈ run, isNameCharacter c = true) :
      Token ⟨.date, 1, first :: run, 0⟩ ('@' :: first :: run) isNameCharacter
  | numeric {first : Char} {run : List Char} (starts : first.isDigit = true)
      (inside : ∀ c ∈ run, isDateCharacter c = true) :
      Token ⟨.date, 1, first :: run, 0⟩ ('@' :: first :: run) isDateCharacter
  | assignee {name : List Char} (nonempty : name ≠ [])
      (inside : ∀ c ∈ name, isAssigneeCharacter c = true) :
      Token ⟨.assignee, 1, name, 0⟩ ('+' :: name) fun c => isAssigneeCharacter c || c == '@'
  | addressed {name host : List Char} (nonempty : name ≠ [])
      (inside : ∀ c ∈ name, isAssigneeCharacter c = true)
      (unbroken : ∀ c ∈ host, isBlank c = false) :
      Token ⟨.assignee, 1, name, host.length + 1⟩ ('+' :: (name ++ '@' :: host)) (!isBlank ·)

theorem Token.length_eq {lexeme : Lexeme} {body : List Char} {more : Char → Bool}
    (token : Token lexeme body more) : body.length = lexeme.length := by
  cases token <;> simp_all [Lexeme.length] <;> omega

theorem Token.lead_pos {lexeme : Lexeme} {body : List Char} {more : Char → Bool}
    (token : Token lexeme body more) : 0 < lexeme.lead := by
  cases token <;> simp

/-- The opening of a colour takes six characters. -/
theorem startsColor_append {opening : List Char} (size : 6 ≤ opening.length)
    (rest : List Char) : startsColor (opening ++ rest) = startsColor opening := by
  simp only [startsColor, List.take_append_of_le_length size]

/-- The opening of a colour begins with a character that no other token begins with. -/
theorem toLower_of_startsColor {c : Char} {rest : List Char}
    (starts : startsColor (c :: rest) = true) : c.toLower = 'c' := by
  simp only [startsColor, MarkerKind.opening, List.take_succ_cons, List.map_cons,
    beq_iff_eq, List.cons.injEq] at starts
  exact starts.1

theorem read?_of_startsColor {text : List Char} (starts : startsColor text = true) :
    read? text = color? text := by
  cases text with
  | nil => simp [startsColor, MarkerKind.opening] at starts
  | cons c rest =>
      have isC := toLower_of_startsColor starts
      have other {d : Char} (different : d.toLower ≠ 'c') : c ≠ d := by
        rintro rfl
        exact different isC
      simp only [read?, other (d := '[') (by decide), other (d := '#') (by decide),
        other (d := '@') (by decide), other (d := '+') (by decide), if_false]

/-- A token is read where its characters stand and nothing makes it longer. -/
theorem read?_of_token {lexeme : Lexeme} {body rest : List Char} {more : Char → Bool}
    (token : Token lexeme body more) (ends : ∀ c ∈ rest.head?, more c = false) :
    read? (body ++ rest) = some lexeme := by
  cases token with
  | @tag value unclosed =>
      have run := takeWhile_ne_append value rest unclosed
      simp [read?, tag?, run]
  | @color opening value size starts inside =>
      have startsText : startsColor (opening ++ value ++ rest) = true := by
        rw [List.append_assoc, startsColor_append size.ge, starts]
      have behind : (opening ++ value ++ rest).drop 6 = value ++ rest := by
        rw [List.append_assoc, ← size, List.drop_left]
      rw [read?_of_startsColor startsText, color?, if_pos startsText, behind,
        takeWhile_append_of_head inside ends]
  | @priority word nonempty inside =>
      simp [read?, priority?, takeWhile_append_of_head inside ends, nonempty]
  | named starts inside =>
      simp [read?, date?, starts, takeWhile_append_of_head inside ends]
  | @numeric first run starts inside =>
      have noLetter : first.isAlpha = false := isAlpha_of_isDigit starts
      simp [read?, date?, starts, noLetter, takeWhile_append_of_head inside ends]
  | @assignee name nonempty inside =>
      have run : (name ++ rest).takeWhile isAssigneeCharacter = name :=
        takeWhile_append_of_head inside fun c member => by
          have := ends c member
          simp_all
      have noAddress : address rest = [] := by
        cases rest with
        | nil => rfl
        | cons c rest =>
            have := ends c (by simp)
            simp_all [address]
      simp [read?, assignee?, run, nonempty, noAddress]
  | @addressed name host nonempty inside unbroken =>
      have run : (name ++ '@' :: (host ++ rest)).takeWhile isAssigneeCharacter = name :=
        takeWhile_append_of_head inside (by simp [isAssigneeCharacter])
      have hostRun : (host ++ rest).takeWhile (!isBlank ·) = host :=
        takeWhile_append_of_head (by simpa using unbroken) ends
      simp [read?, assignee?, run, nonempty, address, hostRun]

/-- A lexeme that is a token at the start of a text, as long as it can be. -/
def Starts (text : List Char) (lexeme : Lexeme) : Prop :=
  ∃ body rest more, Token lexeme body more ∧ text = body ++ rest ∧
    ∀ c ∈ rest.head?, more c = false

theorem inside_takeWhile (p : Char → Bool) (text : List Char) :
    ∀ c ∈ text.takeWhile p, p c = true :=
  fun _ member => List.mem_takeWhile_imp member

theorem starts_of_tag? {rest : List Char} {lexeme : Lexeme} (found : tag? rest = some lexeme) :
    Starts ('[' :: rest) lexeme := by
  simp only [tag?, Option.ite_none_right_eq_some, Option.some.injEq] at found
  obtain ⟨closes, rfl⟩ := found
  obtain ⟨value, after, rfl, isFirst⟩ := List.eq_append_cons_of_mem (by simpa using closes)
  rw [takeWhile_ne_append value after isFirst]
  exact ⟨_, after, _, .tag isFirst, by simp, by simp⟩

theorem starts_of_priority? {rest : List Char} {lexeme : Lexeme}
    (found : priority? rest = some lexeme) : Starts ('#' :: rest) lexeme := by
  simp only [priority?, Option.ite_none_left_eq_some, Option.some.injEq,
    List.isEmpty_iff] at found
  obtain ⟨nonempty, rfl⟩ := found
  refine ⟨_, _, _, .priority nonempty (inside_takeWhile _ rest), ?_, head?_drop_takeWhile _ rest⟩
  rw [List.cons_append, takeWhile_append_drop]

theorem starts_of_date? {rest : List Char} {lexeme : Lexeme} (found : date? rest = some lexeme) :
    Starts ('@' :: rest) lexeme := by
  cases rest with
  | nil => simp [date?] at found
  | cons first rest =>
      simp only [date?] at found
      split at found
      · rename_i letter
        obtain rfl := Option.some.inj found
        refine ⟨_, _, _, .named letter (inside_takeWhile _ rest), ?_, head?_drop_takeWhile _ rest⟩
        rw [List.cons_append, List.cons_append, takeWhile_append_drop]
      split at found
      · rename_i digit
        obtain rfl := Option.some.inj found
        refine ⟨_, _, _, .numeric digit (inside_takeWhile _ rest), ?_,
          head?_drop_takeWhile _ rest⟩
        rw [List.cons_append, List.cons_append, takeWhile_append_drop]
      · simp at found

theorem starts_of_color? {text : List Char} {lexeme : Lexeme} (found : color? text = some lexeme) :
    Starts text lexeme := by
  simp only [color?, Option.ite_none_right_eq_some, Option.some.injEq] at found
  obtain ⟨starts, rfl⟩ := found
  have size : (text.take 6).length = 6 := by
    rw [List.length_take, Nat.min_eq_left (startsColor_length starts)]
  have openingStarts : startsColor (text.take 6) = true := by
    rw [← startsColor_append size.ge (text.drop 6), List.take_append_drop, starts]
  refine ⟨_, _, _, .color size openingStarts (inside_takeWhile _ (text.drop 6)), ?_,
    head?_drop_takeWhile _ (text.drop 6)⟩
  rw [List.append_assoc, takeWhile_append_drop, List.take_append_drop]

theorem starts_of_assignee? {rest : List Char} {lexeme : Lexeme}
    (found : assignee? rest = some lexeme) : Starts ('+' :: rest) lexeme := by
  simp only [assignee?, Option.ite_none_left_eq_some, Option.some.injEq,
    List.isEmpty_iff] at found
  obtain ⟨nonempty, rfl⟩ := found
  have nameEnds := head?_drop_takeWhile isAssigneeCharacter rest
  have parts := takeWhile_append_drop isAssigneeCharacter rest
  have inside := inside_takeWhile isAssigneeCharacter rest
  generalize rest.takeWhile isAssigneeCharacter = name at *
  generalize rest.drop name.length = tail at *
  subst parts
  cases tail with
  | nil => exact ⟨_, [], _, .assignee nonempty inside, by simp, by simp⟩
  | cons c tail =>
      have nameStops : isAssigneeCharacter c = false := nameEnds c (by simp)
      by_cases isAtSign : c = '@'
      · subst isAtSign
        have unbroken : ∀ c ∈ tail.takeWhile (!isBlank ·), isBlank c = false := by
          simpa using inside_takeWhile (!isBlank ·) tail
        refine ⟨_, tail.drop (tail.takeWhile (!isBlank ·)).length, _,
          .addressed nonempty inside unbroken, ?_, head?_drop_takeWhile _ tail⟩
        simp [takeWhile_append_drop]
      · have noAddress : address (c :: tail) = [] := by
          simp [address, isAtSign]
        rw [noAddress]
        refine ⟨_, c :: tail, _, .assignee nonempty inside, by simp, ?_⟩
        simp [nameStops, isAtSign]

/-- What is read at the start of a text is the token there. -/
theorem read?_eq_some_iff {text : List Char} {lexeme : Lexeme} :
    read? text = some lexeme ↔ Starts text lexeme := by
  constructor
  · intro found
    cases text with
    | nil => simp [read?] at found
    | cons c rest =>
        simp only [read?] at found
        split at found
        · rename_i isBracket
          subst isBracket
          exact starts_of_tag? found
        split at found
        · rename_i isNumberSign
          subst isNumberSign
          exact starts_of_priority? found
        split at found
        · rename_i isAtSign
          subst isAtSign
          exact starts_of_date? found
        split at found
        · rename_i isPlusSign
          subst isPlusSign
          exact starts_of_assignee? found
        · exact starts_of_color? found
  · rintro ⟨body, rest, more, token, rfl, ends⟩
    exact read?_of_token token ends

/-- A token has an opening and lies in the text that it starts. -/
theorem read?_bounds {text : List Char} {lexeme : Lexeme} (found : read? text = some lexeme) :
    0 < lexeme.lead ∧ lexeme.length ≤ text.length := by
  obtain ⟨body, rest, more, token, rfl, -⟩ := read?_eq_some_iff.mp found
  refine ⟨token.lead_pos, ?_⟩
  rw [← token.length_eq, List.length_append]
  exact Nat.le_add_right _ _

/-- A token is not empty. -/
theorem length_pos_of_read? {text : List Char} {lexeme : Lexeme}
    (found : read? text = some lexeme) : 0 < lexeme.length := by
  have leadPos := (read?_bounds found).1
  simp only [Lexeme.length]
  omega

end Tokenizer

end InlineMarkers
