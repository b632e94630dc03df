import InlineMarkers.Proofs.Diagnostic.Reports
import InlineMarkers.Proofs.Text.SearchPlaces
import InlineMarkers.Proofs.Text.Trim
import InlineMarkers.Proofs.Marker.Tokenizer
import InlineMarkers.Validation.Incomplete
import Mathlib.Data.List.Nodup

/-!
# What the rules for open markers find

A rule reports what its pattern matches, and where its marker is finished the
pattern matches nothing.
-/

namespace InlineMarkers.Validation

open Text

variable {config : MarkerConfig} {text before rest covered : List Char} {diagnostic : Diagnostic}

/-- A way to finish a marker that leaves nothing for a pattern to match at the same place. -/
def Finishes (pattern : Pattern) (finish : List Char → List Char) : Prop :=
  ∀ before rest covered, pattern before rest = some covered →
    ∀ other, pattern other (finish covered ++ rest.drop covered.length) = none

theorem closeTag_finishes : Finishes openTag closeTag := by
  intro before rest covered _ other
  simp only [closeTag, List.append_assoc, List.singleton_append]
  cases trimEnd covered with
  | nil => rfl
  | cons c inside =>
      by_cases isBracket : c = '['
      · simp [isBracket, openTag]
      · simp [openTag, isBracket]

theorem openCharacter_of_solid {opening first : Char} (solid : isBlank first = false) :
    openCharacter opening before (opening :: first :: rest) = none := by
  simp [openCharacter, solid]

theorem openCharacter_finishes {opening : Char} (first : Char) (more : List Char)
    (solid : isBlank first = false) :
    Finishes (openCharacter opening) fun _ => opening :: first :: more := by
  intro before rest covered _ other
  exact openCharacter_of_solid solid

theorem openPriority_finishes (first : Char) (more : List Char) (solid : isBlank first = false) :
    Finishes openPriority fun _ => '#' :: first :: more := by
  intro before rest covered _ other
  simp only [openPriority]
  split
  · rfl
  · exact openCharacter_of_solid solid

theorem length_le_of_atEnd (ends : atEnd rest = true) : rest.length ≤ 1 := by
  rcases eq_of_atEnd ends with rfl | rfl <;> decide

theorem leadingHexDigits_length_le (text : List Char) : (leadingHexDigits text).length ≤ 2 :=
  Nat.le_trans (List.takeWhile_prefix _).length_le (List.length_take_le 2 text)

/-- A colour with six characters behind the number sign is not open. -/
theorem openColor_of_long {tail : List Char} (long : 6 ≤ tail.length) (before : List Char) :
    openColor before (['c', 'o', 'l', 'o', 'r', ':', '#'] ++ tail) = none := by
  have starts : Lexeme.startsColor (['c', 'o', 'l', 'o', 'r', ':', '#'] ++ tail) = true := by
    rw [Tokenizer.startsColor_append (by decide)]
    decide
  have solid : isBlank '#' = false := by decide
  have few := leadingHexDigits_length_le tail
  have notAtEnd : atEnd (tail.drop (leadingHexDigits tail).length) = false := by
    rw [Bool.eq_false_iff]
    intro ends
    have short := length_le_of_atEnd ends
    rw [List.length_drop] at short
    omega
  rw [openColor, if_pos starts]
  simp only [List.cons_append, List.nil_append, List.drop_succ_cons, List.drop_zero,
    List.take_succ_cons, List.take_zero, List.takeWhile_cons, solid, Bool.false_eq_true, if_false,
    List.length_nil, List.length_cons, leadingNumberSign, notAtEnd]

theorem finishColor_finishes : Finishes openColor finishColor := by
  intro before rest covered _ other
  obtain ⟨digits, finished, enough⟩ : ∃ digits,
      finishColor covered = ['c', 'o', 'l', 'o', 'r', ':', '#'] ++ digits ∧ 6 ≤ digits.length := by
    have opening : "color:#".toList = ['c', 'o', 'l', 'o', 'r', ':', '#'] := by decide
    refine ⟨trailingHexDigits covered ++
      List.replicate (6 - (trailingHexDigits covered).length) '0', ?_, ?_⟩
    · unfold finishColor
      simp only [opening, List.append_assoc]
    · rw [List.length_append, List.length_replicate]
      omega
  rw [finished, List.append_assoc]
  apply openColor_of_long
  rw [List.length_append]
  omega

theorem openTag_coversText : openTag.CoversText := by
  intro before rest covered matched
  simp only [openTag] at matched
  split at matched
  · split at matched
    · simp at matched
    · obtain rfl := Option.some.inj matched
      exact ⟨List.cons_ne_nil _ _, List.prefix_rfl⟩
  · simp at matched

theorem openCharacter_coversText (opening : Char) : (openCharacter opening).CoversText := by
  intro before rest covered matched
  simp only [openCharacter] at matched
  split at matched
  · obtain ⟨-, isRest⟩ := Option.ite_none_right_eq_some.mp matched
    obtain rfl := Option.some.inj isRest
    exact ⟨List.cons_ne_nil _ _, List.prefix_rfl⟩
  · simp at matched

theorem openPriority_coversText : openPriority.CoversText := by
  intro before rest covered matched
  simp only [openPriority] at matched
  split at matched
  · simp at matched
  · exact openCharacter_coversText '#' _ _ _ matched

theorem append_prefix_of_drop {first second : List Char} (begins : first <+: text)
    (follows : second <+: text.drop first.length) : first ++ second <+: text := by
  obtain ⟨rest, rfl⟩ := begins
  rw [List.drop_left] at follows
  exact (List.prefix_append_right_inj first).mpr follows

theorem leadingNumberSign_begins (text : List Char) : leadingNumberSign text <+: text := by
  unfold leadingNumberSign
  split
  · exact ⟨_, rfl⟩
  · exact List.nil_prefix

theorem leadingHexDigits_begins (text : List Char) : leadingHexDigits text <+: text :=
  (List.takeWhile_prefix _).trans (List.take_prefix 2 text)

theorem openColor_coversText : openColor.CoversText := by
  intro before rest covered matched
  simp only [openColor] at matched
  split at matched
  · rename_i starts
    obtain ⟨-, isPart⟩ := Option.ite_none_right_eq_some.mp matched
    obtain rfl := Option.some.inj isPart
    have opening : (rest.take 6).length = 6 := by
      rw [List.length_take, Nat.min_eq_left (Tokenizer.startsColor_length starts)]
    refine ⟨?_, ?_⟩
    · intro empty
      have size := congrArg List.length empty
      simp only [List.length_append, opening, List.length_nil] at size
      omega
    · rw [List.append_assoc, List.append_assoc]
      apply append_prefix_of_drop (List.take_prefix 6 rest)
      rw [opening]
      apply append_prefix_of_drop (List.takeWhile_prefix _)
      apply append_prefix_of_drop (leadingNumberSign_begins _)
      rw [← List.drop_drop]
      exact leadingHexDigits_begins _
  · simp at matched

namespace IncompleteRule

theorem coversText_of_mem {rule : IncompleteRule} (isRule : rule ∈ all) :
    rule.pattern.CoversText := by
  simp only [all, List.mem_cons, List.not_mem_nil, or_false] at isRule
  rcases isRule with rfl | rfl | rfl | rfl | rfl
  · exact openTag_coversText
  · exact openColor_coversText
  · exact openCharacter_coversText '@'
  · exact openCharacter_coversText '+'
  · exact openPriority_coversText

/-- Every rule finishes the markers that it finds. -/
theorem finishes_of_mem {rule : IncompleteRule} (isRule : rule ∈ all) :
    Finishes rule.pattern rule.finish := by
  simp only [all, List.mem_cons, List.not_mem_nil, or_false] at isRule
  rcases isRule with rfl | rfl | rfl | rfl | rfl
  · exact closeTag_finishes
  · exact finishColor_finishes
  · exact openCharacter_finishes 't' ['o', 'd', 'a', 'y'] (by decide)
  · exact openCharacter_finishes 'm' ['e'] (by decide)
  · exact openPriority_finishes 'm' ['e', 'd', 'i', 'u', 'm'] (by decide)

/-- No two rules report the same code. -/
theorem eq_of_code_eq {first second : IncompleteRule} (isFirst : first ∈ all)
    (isSecond : second ∈ all) (sameCode : first.code = second.code) : first = second := by
  have distinct : (all.map code).Nodup := by decide
  exact List.inj_on_of_nodup_map distinct isFirst isSecond sameCode

/-- A warning of a rule is about a match of its pattern. -/
theorem reports_of_warning? {rule : IncompleteRule}
    (warned : rule.warning? config text = some diagnostic) :
    ∃ found : Found, found.Matches rule.pattern text ∧
      diagnostic.Reports rule.code found.position found.text [rule.finish found.text] := by
  simp only [warning?] at warned
  split at warned
  · simp at warned
  · obtain ⟨found, isFound, rfl⟩ := Option.map_eq_some_iff.mp warned
    have isMatch := Pattern.matches_of_firstFrom? isFound
    rw [List.reverse_reverse, List.take_append_drop] at isMatch
    exact ⟨found, isMatch, Diagnostic.reports_ofValue ..⟩

theorem severity_of_warning? {rule : IncompleteRule}
    (warned : rule.warning? config text = some diagnostic) : diagnostic.severity = .warning := by
  simp only [warning?] at warned
  split at warned
  · simp at warned
  · obtain ⟨found, -, rfl⟩ := Option.map_eq_some_iff.mp warned
    rfl

end IncompleteRule

/-- A warning about an open marker is one of a rule. -/
theorem exists_rule_of_mem_findIncomplete (member : diagnostic ∈ findIncomplete config text) :
    ∃ rule ∈ IncompleteRule.all, ∃ found : Found, found.Matches rule.pattern text ∧
      diagnostic.Reports rule.code found.position found.text [rule.finish found.text] := by
  simp only [findIncomplete] at member
  split at member
  · simp at member
  · obtain ⟨rule, isRule, warned⟩ := List.mem_filterMap.mp member
    exact ⟨rule, isRule, IncompleteRule.reports_of_warning? warned⟩

theorem severity_of_mem_findIncomplete (member : diagnostic ∈ findIncomplete config text) :
    diagnostic.severity = .warning := by
  simp only [findIncomplete] at member
  split at member
  · simp at member
  · obtain ⟨rule, -, warned⟩ := List.mem_filterMap.mp member
    exact IncompleteRule.severity_of_warning? warned

theorem fits_of_mem_findIncomplete (member : diagnostic ∈ findIncomplete config text) :
    diagnostic.fits text.length = true := by
  obtain ⟨rule, isRule, found, isMatch, reports⟩ := exists_rule_of_mem_findIncomplete member
  exact reports.fits_text isMatch (IncompleteRule.coversText_of_mem isRule)

/-- After a fix of an open marker, no open marker of that kind is found at its place. -/
theorem findIncomplete_cleared {again : Diagnostic} {fix : QuickFix}
    (member : diagnostic ∈ findIncomplete config text) (inside : diagnostic.start ≤ text.length)
    (offered : fix ∈ diagnostic.fixes)
    (isAgain : again ∈ findIncomplete config (diagnostic.applyFix fix text))
    (sameCode : again.code = diagnostic.code) : again.start ≠ diagnostic.start := by
  obtain ⟨rule, isRule, found, isMatch, reports⟩ := exists_rule_of_mem_findIncomplete member
  obtain ⟨ruleAgain, isRuleAgain, foundAgain, isMatchAgain, reportsAgain⟩ :=
    exists_rule_of_mem_findIncomplete isAgain
  rw [reportsAgain.code_eq, reports.code_eq, Option.some.injEq] at sameCode
  obtain rfl := IncompleteRule.eq_of_code_eq isRuleAgain isRule sameCode
  refine reports.start_ne reportsAgain inside isMatchAgain fun before => ?_
  rw [reports.eq_of_mem offered]
  exact IncompleteRule.finishes_of_mem isRule _ _ _ isMatch before

end InlineMarkers.Validation
