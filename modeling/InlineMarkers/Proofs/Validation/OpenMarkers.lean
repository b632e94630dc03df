import InlineMarkers.Proofs.Text.Runs
import InlineMarkers.Proofs.Validation.ColorCheck
import InlineMarkers.Proofs.Validation.IncompleteRules

/-!
# The marker that a note leaves open

What a note must look like at its end for each kind of marker to be left open,
said without any search: where the last brackets stand, which character is the
last that is not blank, and what follows the last opening of a colour.  The rules
for open markers report exactly that.
-/

namespace InlineMarkers.Validation

open Text

/-- The opening of a colour, in any case. -/
def IsColorOpening (opening : List Char) : Prop :=
  opening.map Char.toLower = MarkerKind.opening .color

/-- The value of a colour with too few digits: blanks, a number sign that may be missing, and
at most two hexadecimal digits.  A line break may stand behind the number sign or the digits. -/
structure UnfinishedColor (blanks sign digits lineBreak : List Char) : Prop where
  blank : ∀ c ∈ blanks, isBlank c = true
  sign_eq : sign = [] ∨ sign = ['#']
  few : digits.length ≤ 2
  hex : ∀ c ∈ digits, Lexeme.isHexDigit c = true
  ends : lineBreak = [] ∨ lineBreak = ['\n'] ∧ sign ++ digits ≠ []

/-- The notes that leave a marker of a kind open, with the part that is open. -/
inductive LeavesOpen : MarkerKind → List Char → Found → Prop where
  /-- The first opening bracket behind the last closing one, with all that follows. -/
  | tag {closed gap inside : List Char} (closes : ∀ c ∈ closed.getLast?, c = ']')
      (first : '[' ∉ gap) (unclosed : ']' ∉ gap ++ inside) :
      LeavesOpen .tag (closed ++ gap ++ '[' :: inside) ⟨(closed ++ gap).length, '[' :: inside⟩
  /-- The last opening of a colour, with a value that is not finished. -/
  | color {before opening blanks sign digits lineBreak : List Char}
      (opens : IsColorOpening opening)
      (isLast : ∀ front again after, IsColorOpening again →
        before ++ (opening ++ (blanks ++ (sign ++ (digits ++ lineBreak)))) =
          front ++ (again ++ after) → front.length ≤ before.length)
      (value : UnfinishedColor blanks sign digits lineBreak) :
      LeavesOpen .color (before ++ (opening ++ (blanks ++ (sign ++ (digits ++ lineBreak)))))
        ⟨before.length, opening ++ blanks ++ sign ++ digits⟩
  /-- An at sign that is the last character but for blanks. -/
  | date {before blanks : List Char} (blank : ∀ c ∈ blanks, isBlank c = true) :
      LeavesOpen .date (before ++ '@' :: blanks) ⟨before.length, '@' :: blanks⟩
  /-- A plus sign that is the last character but for blanks. -/
  | assignee {before blanks : List Char} (blank : ∀ c ∈ blanks, isBlank c = true) :
      LeavesOpen .assignee (before ++ '+' :: blanks) ⟨before.length, '+' :: blanks⟩
  /-- A number sign that is the last character but for blanks and does not come right after the
  opening of a colour. -/
  | priority {before blanks : List Char} (blank : ∀ c ∈ blanks, isBlank c = true)
      (free : ∀ opening, opening <:+ before → ¬IsColorOpening opening) :
      LeavesOpen .priority (before ++ '#' :: blanks) ⟨before.length, '#' :: blanks⟩

variable {config : MarkerConfig} {text before rest covered closed gap inside : List Char}
  {found : Found} {diagnostic : Diagnostic} {rule : IncompleteRule}

/-! ## Open tags -/

theorem openTag_eq_some_iff :
    openTag before rest = some covered ↔
      ∃ inside, rest = '[' :: inside ∧ ']' ∉ inside ∧ covered = '[' :: inside := by
  constructor
  · intro matched
    simp only [openTag] at matched
    split at matched
    · rename_i inside
      split at matched
      · simp at matched
      · rename_i unclosed
        exact ⟨inside, rfl, by simpa using unclosed, (Option.some.inj matched).symm⟩
    · simp at matched
  · rintro ⟨inside, rfl, unclosed, rfl⟩
    simp [openTag, unclosed]

/-- Before a closing bracket no tag is open. -/
theorem openTag_of_closed {c : Char} {back : List Char} (closes : ']' ∈ c :: back) :
    openTag before (c :: back ++ rest) = none := by
  rw [Option.eq_none_iff_forall_ne_some]
  intro covered matched
  obtain ⟨inside, cut, unclosed, -⟩ := openTag_eq_some_iff.mp matched
  obtain ⟨rfl, rfl⟩ := List.cons.inj cut
  rcases List.mem_cons.mp closes with isBracket | later
  · exact absurd isBracket (by decide)
  · exact unclosed (List.mem_append_left rest later)

/-- Behind a piece that ends with a closing bracket, an end of the text lies in what follows the
piece or holds that bracket. -/
theorem suffix_or_closing_mem (closes : ∀ c ∈ closed.getLast?, c = ']') {back : List Char}
    (ends : back <:+ closed ++ gap) : back <:+ gap ∨ ']' ∈ back := by
  rcases List.suffix_or_suffix_of_suffix ends (List.suffix_append closed gap) with
    inGap | ⟨more, rfl⟩
  · exact .inl inGap
  · obtain ⟨front, cut⟩ := ends
    rw [← List.append_assoc, List.append_left_inj] at cut
    cases last : more.getLast? with
    | none =>
        rw [List.getLast?_eq_none_iff.mp last]
        exact .inl List.suffix_rfl
    | some c =>
        have isLast : c ∈ closed.getLast? := by
          rw [← cut, List.getLast?_append, last]
          rfl
        rw [← closes c isLast]
        exact .inr (List.mem_append_left gap (List.mem_of_getLast? last))

theorem openTag_firstAt (closes : ∀ c ∈ closed.getLast?, c = ']') (first : '[' ∉ gap)
    (unclosed : ']' ∉ gap ++ inside) :
    openTag.FirstAt (closed ++ gap) ('[' :: inside) ('[' :: inside) where
  matched := openTag_eq_some_iff.mpr
    ⟨inside, rfl, fun member => unclosed (List.mem_append_right gap member), rfl⟩
  unmatched := by
    intro front c back cut
    rcases suffix_or_closing_mem closes ⟨front, cut.symm⟩ with inGap | closing
    · rw [Option.eq_none_iff_forall_ne_some]
      intro covered matched
      obtain ⟨again, sameText, -⟩ := openTag_eq_some_iff.mp matched
      obtain ⟨rfl, -⟩ := List.cons.inj sameText
      exact first (inGap.subset List.mem_cons_self)
    · exact openTag_of_closed closing

/-- Every text is a piece that ends with its last closing bracket, and a rest without one. -/
theorem exists_closed_piece (text : List Char) :
    ∃ closed gap, text = closed ++ gap ∧ (∀ c ∈ closed.getLast?, c = ']') ∧ ']' ∉ gap := by
  by_cases closes : ']' ∈ text
  · obtain ⟨front, gap, rfl, unclosed⟩ := exists_last_of_mem closes
    exact ⟨front ++ [']'], gap, by simp, by simp, unclosed⟩
  · exact ⟨[], text, rfl, by simp, closes⟩

theorem first?_openTag_iff :
    openTag.first? text = some found ↔ LeavesOpen .tag text found := by
  rw [Pattern.first?_eq_some_iff]
  constructor
  · rintro ⟨before, rest, rfl, place, matched, unmatched⟩
    obtain ⟨inside, rfl, unclosed, isCovered⟩ := openTag_eq_some_iff.mp matched
    obtain ⟨closed, gap, rfl, closes, noClosing⟩ := exists_closed_piece before
    have first : '[' ∉ gap := by
      intro member
      obtain ⟨front, back, rfl⟩ := List.append_of_mem member
      have earlier := unmatched (closed ++ front) '[' back (by simp)
      rw [List.cons_append, openTag_eq_some_iff.mpr ⟨_, rfl, ?_, rfl⟩] at earlier
      · exact Option.some_ne_none _ earlier
      · simp only [List.mem_append, List.mem_cons, not_or] at noClosing ⊢
        exact ⟨noClosing.2.2, by decide, unclosed⟩
    have shape : found = ⟨(closed ++ gap).length, '[' :: inside⟩ := by
      rw [← place, ← isCovered]
    rw [shape]
    exact .tag closes first (by simp [noClosing, unclosed])
  · intro leaves
    cases leaves with
    | tag closes first unclosed =>
        exact ⟨_, _, rfl, rfl, openTag_firstAt closes first unclosed⟩

/-- A tag is found no matter whether the search begins at the start of the text or behind its
last closing bracket. -/
theorem firstFrom?_openTag_of_closed (closes : ∀ c ∈ closed.getLast?, c = ']') :
    openTag.firstFrom? closed.reverse gap = openTag.first? (closed ++ gap) := by
  have passed : openTag.firstFrom? [] (closed ++ gap) =
      openTag.firstFrom? (closed.reverse ++ []) gap := by
    apply Pattern.firstFrom?_append
    intro front c back cut
    have ends : c :: back <:+ closed ++ [] := ⟨front, by rw [List.append_nil, cut]⟩
    rcases suffix_or_closing_mem closes ends with inNil | closing
    · simp at inNil
    · exact openTag_of_closed closing
  rw [Pattern.first?, passed, List.append_nil]

/-! ## Signs with nothing behind them -/

variable {sign : Char}

theorem openCharacter_eq_some_iff :
    openCharacter sign before rest = some covered ↔
      ∃ blanks, rest = sign :: blanks ∧ (∀ c ∈ blanks, isBlank c = true) ∧
        covered = sign :: blanks := by
  cases rest with
  | nil => simp [openCharacter]
  | cons c rest =>
      simp only [openCharacter, Option.ite_none_right_eq_some, Bool.and_eq_true, beq_iff_eq,
        List.all_eq_true, Option.some.injEq, List.cons.injEq]
      constructor
      · rintro ⟨⟨rfl, blank⟩, rfl⟩
        exact ⟨rest, ⟨rfl, rfl⟩, blank, rfl⟩
      · rintro ⟨blanks, ⟨rfl, rfl⟩, blank, rfl⟩
        exact ⟨⟨rfl, blank⟩, rfl⟩

/-- A sign that is not blank is the last one that no other sign stands behind. -/
theorem openCharacter_of_later (solid : isBlank sign = false) {c : Char} {back blanks : List Char} :
    openCharacter sign before (c :: back ++ sign :: blanks) = none := by
  rw [Option.eq_none_iff_forall_ne_some]
  intro covered matched
  obtain ⟨more, sameText, blank, -⟩ := openCharacter_eq_some_iff.mp matched
  obtain ⟨-, rfl⟩ := List.cons.inj sameText
  have isBlankSign := blank sign (by simp)
  rw [solid] at isBlankSign
  exact Bool.noConfusion isBlankSign

theorem first?_openCharacter_iff (solid : isBlank sign = false) :
    (openCharacter sign).first? text = some found ↔
      ∃ before blanks, text = before ++ sign :: blanks ∧ (∀ c ∈ blanks, isBlank c = true) ∧
        found = ⟨before.length, sign :: blanks⟩ := by
  rw [Pattern.first?_eq_some_iff]
  constructor
  · rintro ⟨before, rest, rfl, place, matched, -⟩
    obtain ⟨blanks, rfl, blank, isCovered⟩ := openCharacter_eq_some_iff.mp matched
    exact ⟨before, blanks, rfl, blank, by rw [← place, ← isCovered]⟩
  · rintro ⟨before, blanks, rfl, blank, rfl⟩
    exact ⟨before, _, rfl, rfl, openCharacter_eq_some_iff.mpr ⟨blanks, rfl, blank, rfl⟩,
      fun _ _ _ _ => openCharacter_of_later solid⟩

theorem length_of_isColorOpening {opening : List Char} (opens : IsColorOpening opening) :
    opening.length = 6 := by
  rw [← List.length_map (f := Char.toLower), opens]
  rfl

theorem startsColor_of_opening {opening : List Char} (opens : IsColorOpening opening)
    (rest : List Char) : Lexeme.startsColor (opening ++ rest) = true := by
  rw [Lexeme.startsColor, List.take_left' (length_of_isColorOpening opens), opens]
  exact beq_self_eq_true _

theorem isColorOpening_of_startsColor (starts : Lexeme.startsColor text = true) :
    IsColorOpening (text.take 6) :=
  eq_of_beq starts

theorem followsColorOpening_iff :
    followsColorOpening before.reverse = true ↔
      ∃ opening, opening <:+ before ∧ IsColorOpening opening := by
  constructor
  · intro follows
    have opens := isColorOpening_of_startsColor follows
    refine ⟨_, ?_, opens⟩
    have short : ((before.reverse.take 6).reverse).take 6 = (before.reverse.take 6).reverse :=
      List.take_of_length_le (by rw [List.length_reverse]; exact List.length_take_le 6 _)
    rw [short, ← List.reverse_prefix, List.reverse_reverse]
    exact List.take_prefix 6 _
  · rintro ⟨opening, ⟨front, rfl⟩, opens⟩
    have size := length_of_isColorOpening opens
    rw [followsColorOpening, List.reverse_append,
      List.take_left' (by rw [List.length_reverse, size]), List.reverse_reverse]
    have starts := startsColor_of_opening opens []
    rwa [List.append_nil] at starts

theorem first?_openPriority_iff :
    openPriority.first? text = some found ↔ LeavesOpen .priority text found := by
  rw [Pattern.first?_eq_some_iff]
  constructor
  · rintro ⟨before, rest, rfl, place, matched, -⟩
    obtain ⟨free, matched⟩ := Option.ite_none_left_eq_some.mp matched
    obtain ⟨blanks, rfl, blank, isCovered⟩ := openCharacter_eq_some_iff.mp matched
    have shape : found = ⟨before.length, '#' :: blanks⟩ := by
      rw [← place, ← isCovered]
    rw [shape]
    exact .priority blank fun opening ends opens =>
      free (followsColorOpening_iff.mpr ⟨opening, ends, opens⟩)
  · intro leaves
    cases leaves with
    | priority blank free =>
        refine ⟨_, _, rfl, rfl, Option.ite_none_left_eq_some.mpr ⟨?_, ?_⟩, ?_⟩
        · rw [followsColorOpening_iff]
          rintro ⟨opening, ends, opens⟩
          exact free opening ends opens
        · exact openCharacter_eq_some_iff.mpr ⟨_, rfl, blank, rfl⟩
        · intro front c back _
          rw [openPriority, openCharacter_of_later (by decide), ite_self]

/-! ## Colours without enough digits -/

variable {opening blanks sign digits lineBreak : List Char}

theorem leadingNumberSign_eq (text : List Char) :
    leadingNumberSign text = [] ∨ leadingNumberSign text = ['#'] := by
  unfold leadingNumberSign
  split
  · exact .inr rfl
  · exact .inl rfl

namespace UnfinishedColor

/-- Nothing of the value behind its blanks is blank, but the line break at the end. -/
theorem blanks_eq (value : UnfinishedColor blanks sign digits lineBreak) :
    (blanks ++ (sign ++ (digits ++ lineBreak))).takeWhile isBlank = blanks := by
  apply takeWhile_append_of_head value.blank
  rcases value.sign_eq with rfl | rfl
  · cases digits with
    | nil =>
        rcases value.ends with rfl | ⟨-, nonempty⟩
        · simp
        · exact absurd rfl nonempty
    | cons digit more =>
        intro c isFirst
        obtain rfl : digit = c := by simpa using isFirst
        exact isBlank_of_isAlphanum (isAlphanum_of_isHexDigit (value.hex digit List.mem_cons_self))
  · intro c isFirst
    obtain rfl : '#' = c := by simpa using isFirst
    decide

theorem sign_eq_leading (value : UnfinishedColor blanks sign digits lineBreak) :
    leadingNumberSign (sign ++ (digits ++ lineBreak)) = sign := by
  rcases value.sign_eq with rfl | rfl
  · rw [List.nil_append]
    cases digits with
    | nil => rcases value.ends with rfl | ⟨rfl, -⟩ <;> rfl
    | cons digit more =>
        have notSign : digit ≠ '#' := by
          rintro rfl
          exact absurd (value.hex '#' List.mem_cons_self) (by decide)
        simp [leadingNumberSign, notSign]
  · rfl

theorem digits_eq_leading (value : UnfinishedColor blanks sign digits lineBreak) :
    leadingHexDigits (digits ++ lineBreak) = digits := by
  rw [leadingHexDigits, List.take_append, List.take_of_length_le value.few]
  apply takeWhile_append_of_head value.hex
  intro c isFirst
  have member := List.mem_of_mem_take (List.mem_of_mem_head? isFirst)
  rcases value.ends with rfl | ⟨rfl, -⟩
  · simp at member
  · obtain rfl := List.mem_singleton.mp member
    decide

theorem atEnd_lineBreak (value : UnfinishedColor blanks sign digits lineBreak) :
    atEnd lineBreak = true := by
  rcases value.ends with rfl | ⟨rfl, -⟩ <;> rfl

/-- The last colon before the end of the text is that of the opening. -/
theorem colon_notMem (value : UnfinishedColor blanks sign digits lineBreak) :
    ':' ∉ blanks ++ (sign ++ (digits ++ lineBreak)) := by
  simp only [List.mem_append, not_or]
  refine ⟨fun member => ?_, fun member => ?_, fun member => ?_, fun member => ?_⟩
  · exact absurd (value.blank ':' member) (by decide)
  · rcases value.sign_eq with rfl | rfl <;> simp at member
  · exact absurd (value.hex ':' member) (by decide)
  · rcases value.ends with rfl | ⟨rfl, -⟩ <;> simp at member

end UnfinishedColor

theorem openColor_of_parts (opens : IsColorOpening opening)
    (value : UnfinishedColor blanks sign digits lineBreak) :
    openColor before (opening ++ (blanks ++ (sign ++ (digits ++ lineBreak)))) =
      some (opening ++ blanks ++ sign ++ digits) := by
  have size := length_of_isColorOpening opens
  have parts : opening ++ (blanks ++ (sign ++ (digits ++ lineBreak))) =
      opening ++ blanks ++ sign ++ digits ++ lineBreak := by
    simp only [List.append_assoc]
  rw [openColor, if_pos (startsColor_of_opening opens _)]
  simp only [List.drop_left' size, List.take_left' size, value.blanks_eq]
  rw [List.drop_left, value.sign_eq_leading, ← List.drop_drop, List.drop_left, List.drop_left,
    value.digits_eq_leading, parts, List.drop_left, if_pos value.atEnd_lineBreak]

theorem exists_parts_of_openColor (matched : openColor before rest = some covered) :
    ∃ opening blanks sign digits lineBreak, IsColorOpening opening ∧
      UnfinishedColor blanks sign digits lineBreak ∧
      rest = opening ++ (blanks ++ (sign ++ (digits ++ lineBreak))) ∧
      covered = opening ++ blanks ++ sign ++ digits := by
  obtain ⟨-, begins⟩ := openColor_coversText _ _ _ matched
  have whole := List.prefix_iff_eq_append.mp begins
  obtain ⟨starts, matched⟩ := Option.ite_none_right_eq_some.mp matched
  obtain ⟨ends, isCovered⟩ := Option.ite_none_right_eq_some.mp matched
  rw [Option.some.injEq] at isCovered
  rw [isCovered] at ends
  refine ⟨_, _, _, _, rest.drop covered.length, isColorOpening_of_startsColor starts,
    ⟨fun c => List.mem_takeWhile_imp, leadingNumberSign_eq _, leadingHexDigits_length_le _,
      fun c => List.mem_takeWhile_imp, ?_⟩, ?_, isCovered.symm⟩
  · refine (eq_of_atEnd ends).imp_right fun isBreak => ⟨isBreak, fun nothing => ?_⟩
    -- a line break right behind the blanks would be one of them
    rw [List.append_eq_nil_iff] at nothing
    rw [← isCovered, nothing.2, nothing.1, List.append_nil, List.append_nil, List.length_append,
      List.length_take, Nat.min_eq_left (Tokenizer.startsColor_length starts),
      ← List.drop_drop] at isBreak
    have outside := head?_drop_takeWhile isBlank (rest.drop 6)
    rw [isBreak] at outside
    exact absurd (outside '\n' rfl) (by decide)
  · rw [← isCovered] at whole ⊢
    simpa only [List.append_assoc] using whole.symm

/-- Behind the last colon of a text no colour opens. -/
theorem length_le_of_isColorOpening {front again after tail : List Char}
    (opens : IsColorOpening opening) (opensAgain : IsColorOpening again) (noColon : ':' ∉ tail)
    (same : before ++ (opening ++ tail) = front ++ (again ++ after)) :
    front.length ≤ before.length := by
  have size := length_of_isColorOpening opens
  obtain ⟨c, isFifth, lowered⟩ : ∃ c, again[5]? = some c ∧ c.toLower = ':' := by
    apply Option.map_eq_some_iff.mp
    rw [← List.getElem?_map, opensAgain]
    rfl
  obtain rfl : c = ':' := eq_of_toLower_eq (by decide) lowered
  by_contra behind
  have inText : (front ++ (again ++ after))[front.length + 5]? = some ':' := by
    rw [List.getElem?_append_right (by omega), Nat.add_sub_cancel_left, List.getElem?_append_left,
      isFifth]
    exact (List.getElem?_eq_some_iff.mp isFifth).1
  rw [← same, List.getElem?_append_right (by omega), List.getElem?_append_right (by omega)]
    at inText
  exact noColon (List.mem_of_getElem? inText)

theorem first?_openColor_iff :
    openColor.first? text = some found ↔ LeavesOpen .color text found := by
  rw [Pattern.first?_eq_some_iff]
  constructor
  · rintro ⟨before, rest, rfl, place, matched, -⟩
    obtain ⟨opening, blanks, sign, digits, lineBreak, opens, value, rfl, isCovered⟩ :=
      exists_parts_of_openColor matched
    have shape : found = ⟨before.length, opening ++ blanks ++ sign ++ digits⟩ := by
      rw [← place, ← isCovered]
    rw [shape]
    exact .color opens (fun front again after opensAgain =>
      length_le_of_isColorOpening opens opensAgain value.colon_notMem) value
  · intro leaves
    cases leaves with
    | @color before opening blanks sign digits lineBreak opens isLast value =>
        refine ⟨_, _, rfl, rfl, openColor_of_parts opens value, fun front c back cut => ?_⟩
        rw [Option.eq_none_iff_forall_ne_some]
        intro covered matched
        obtain ⟨again, _, _, _, _, opensAgain, valueAgain, parts, -⟩ :=
          exists_parts_of_openColor matched
        have notBehind : before.length ≤ front.length :=
          length_le_of_isColorOpening opensAgain opens valueAgain.colon_notMem
            (by rw [← parts, cut, List.append_assoc])
        rw [cut, List.length_append, List.length_cons] at notBehind
        omega

/-! ## The rules -/

namespace IncompleteRule

/-- The warning of a rule about an open marker. -/
def warning (rule : IncompleteRule) (found : Found) : Diagnostic :=
  Diagnostic.ofValue .warning rule.message found.position found.text
    (some (rule.finish found.text)) (some rule.code) none
    [⟨rule.fixLabel, rule.finish found.text, none⟩]

theorem warning?_eq :
    rule.warning? config text =
      if text.length < rule.minLength config then none else (rule.find? text).map rule.warning :=
  rfl

/-- Every rule finds what a search through the whole note finds. -/
theorem find?_eq_first? (isRule : rule ∈ all) : rule.find? text = rule.pattern.first? text := by
  rw [find?, searchStart]
  split
  case isTrue isTag =>
      obtain ⟨closed, gap, rfl, closes, unclosed⟩ := exists_closed_piece text
      have isOpenTag : rule.pattern = openTag := by
        simp only [all, List.mem_cons, List.not_mem_nil, or_false] at isRule
        rcases isRule with rfl | rfl | rfl | rfl | rfl
        · rfl
        all_goals simp at isTag
      have behind : (closed ++ gap).reverse.takeWhile (· != ']') = gap.reverse := by
        rw [List.reverse_append]
        apply takeWhile_append_of_head
        · intro c member
          rw [bne_iff_ne]
          rintro rfl
          exact unclosed (List.mem_reverse.mp member)
        · intro c isFirst
          rw [List.head?_reverse] at isFirst
          simp [closes c isFirst]
      have start : (closed ++ gap).length - gap.reverse.length = closed.length := by
        rw [List.length_append, List.length_reverse, Nat.add_sub_cancel]
      simp only [behind, start, List.take_left, List.drop_left, isOpenTag]
      exact firstFrom?_openTag_of_closed closes
  case isFalse => rfl

/-- A rule finds the open marker of its kind. -/
theorem find?_eq_some_iff (isRule : rule ∈ all) :
    rule.find? text = some found ↔ LeavesOpen rule.kind text found := by
  rw [find?_eq_first? isRule]
  simp only [all, List.mem_cons, List.not_mem_nil, or_false] at isRule
  rcases isRule with rfl | rfl | rfl | rfl | rfl
  · exact first?_openTag_iff
  · exact first?_openColor_iff
  · refine (first?_openCharacter_iff (by decide)).trans ⟨?_, fun leaves => ?_⟩
    · rintro ⟨before, blanks, rfl, blank, rfl⟩
      exact .date blank
    · cases leaves with
      | date blank => exact ⟨_, _, rfl, blank, rfl⟩
  · refine (first?_openCharacter_iff (by decide)).trans ⟨?_, fun leaves => ?_⟩
    · rintro ⟨before, blanks, rfl, blank, rfl⟩
      exact .assignee blank
    · cases leaves with
      | assignee blank => exact ⟨_, _, rfl, blank, rfl⟩
  · exact first?_openPriority_iff

theorem warning?_eq_some_iff (isRule : rule ∈ all) :
    rule.warning? config text = some diagnostic ↔
      rule.minLength config ≤ text.length ∧
        ∃ found, LeavesOpen rule.kind text found ∧ rule.warning found = diagnostic := by
  rw [warning?_eq, Option.ite_none_left_eq_some, Nat.not_lt, Option.map_eq_some_iff]
  simp only [find?_eq_some_iff isRule]

end IncompleteRule

/-- The rules find nothing in an empty note, so it needs no case of its own. -/
theorem findIncomplete_eq (config : MarkerConfig) (text : List Char) :
    findIncomplete config text =
      IncompleteRule.all.filterMap (IncompleteRule.warning? config text) := by
  cases text with
  | nil =>
      have unfound : ∀ rule ∈ IncompleteRule.all, rule.find? [] = none := by decide
      rw [eq_comm, findIncomplete, if_pos List.isEmpty_nil, List.filterMap_eq_nil_iff]
      intro rule isRule
      rw [IncompleteRule.warning?_eq, unfound rule isRule, Option.map_none, ite_self]
  | cons c text => rfl

/-- What is found in the items of a list has names in the order of the items. -/
theorem sublist_map_filterMap {α β γ : Type} {check : α → Option β} {name : α → γ} {key : β → γ}
    (named : ∀ item found, check item = some found → key found = name item) (items : List α) :
    ((items.filterMap check).map key).Sublist (items.map name) := by
  induction items with
  | nil => exact .slnil
  | cons item items ih =>
      cases outcome : check item with
      | none =>
          rw [List.filterMap_cons_none outcome]
          exact ih.cons _
      | some found =>
          rw [List.filterMap_cons_some outcome, List.map_cons, List.map_cons,
            named item found outcome]
          exact ih.cons_cons _

/-- The warnings about open markers are exactly those about the markers that a note leaves open,
each kind under its condition on the length of the note, in the order of the kinds and at most one
of a kind.  To search for an open tag behind the last closing bracket alone loses nothing. -/
theorem findIncomplete_leavesOpen (config : MarkerConfig) (text : List Char) :
    (∀ diagnostic, diagnostic ∈ findIncomplete config text ↔
      ∃ rule ∈ IncompleteRule.all,
        (if rule.kind = .color then config.incompleteColorLength else config.incompleteLength) ≤
          text.length ∧
        ∃ found, LeavesOpen rule.kind text found ∧ rule.warning found = diagnostic) ∧
    ((findIncomplete config text).map (·.code)).Sublist
      [some .tagIncomplete, some .colorIncomplete, some .dateIncomplete,
        some .assigneeIncomplete, some .priorityIncomplete] ∧
    ∀ rule ∈ IncompleteRule.all, rule.find? text = rule.pattern.first? text := by
  refine ⟨fun diagnostic => ?_, ?_, fun rule => IncompleteRule.find?_eq_first?⟩
  · rw [findIncomplete_eq, List.mem_filterMap]
    constructor
    · rintro ⟨rule, isRule, warned⟩
      exact ⟨rule, isRule, (IncompleteRule.warning?_eq_some_iff isRule).mp warned⟩
    · rintro ⟨rule, isRule, leaves⟩
      exact ⟨rule, isRule, (IncompleteRule.warning?_eq_some_iff isRule).mpr leaves⟩
  · have named : ∀ rule diagnostic, IncompleteRule.warning? config text rule = some diagnostic →
        diagnostic.code = some rule.code := by
      intro rule diagnostic warned
      obtain ⟨_, -, reports⟩ := IncompleteRule.reports_of_warning? warned
      exact reports.code_eq
    rw [findIncomplete_eq]
    exact sublist_map_filterMap named IncompleteRule.all

/-- Two open brackets behind a closed one, and a plus sign before the final line break. -/
example : (findIncomplete .standard "a] [b [c +\n".toList).map (fun warning =>
    (warning.code, warning.start, warning.stop)) =
      [(some .tagIncomplete, 3, 11), (some .assigneeIncomplete, 9, 11)] := by
  decide +kernel

end InlineMarkers.Validation
