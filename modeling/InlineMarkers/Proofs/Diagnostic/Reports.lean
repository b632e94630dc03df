import InlineMarkers.Editor.QuickFix
import InlineMarkers.Proofs.Text.SearchPlaces

/-!
# What a diagnostic reports

A check makes a diagnostic of a piece of a text.  `Diagnostic.Reports` says what
later results need of it: the code, the range, and the texts that may take the
place of the range, with the one that is offered first.
-/

namespace InlineMarkers

open Text

namespace QuickFix

variable {fix : QuickFix} {fixes : List QuickFix}

theorem mem_of_mem_distinctFrom {seen : List (List Char)}
    (member : fix ∈ distinctFrom seen fixes) : fix ∈ fixes := by
  fun_induction distinctFrom seen fixes with
  | case1 => exact member
  | case2 seen first rest _ ih => exact List.mem_cons_of_mem first (ih member)
  | case3 seen first rest _ ih =>
      rcases List.mem_cons.mp member with rfl | later
      · exact List.mem_cons_self
      · exact List.mem_cons_of_mem first (ih later)

theorem replacement_notMem_of_mem_distinctFrom {seen : List (List Char)}
    (member : fix ∈ distinctFrom seen fixes) : fix.replacement ∉ seen := by
  fun_induction distinctFrom seen fixes with
  | case1 => simp at member
  | case2 seen first rest _ ih => exact ih member
  | case3 seen first rest unseen ih =>
      rcases List.mem_cons.mp member with rfl | later
      · simpa using unseen
      · exact fun isSeen => ih later (List.mem_cons_of_mem _ isSeen)

/-- No two of the fixes that are left put the same text. -/
theorem nodup_distinctFrom (seen : List (List Char)) (fixes : List QuickFix) :
    ((distinctFrom seen fixes).map (·.replacement)).Nodup := by
  fun_induction distinctFrom seen fixes with
  | case1 => exact List.nodup_nil
  | case2 seen first rest _ ih => exact ih
  | case3 seen first rest _ ih =>
      rw [List.map_cons, List.nodup_cons]
      refine ⟨fun again => ?_, ih⟩
      obtain ⟨later, member, same⟩ := List.mem_map.mp again
      apply replacement_notMem_of_mem_distinctFrom member
      rw [same]
      exact List.mem_cons_self

/-- Fixes that put different texts are all left. -/
theorem distinctFrom_of_nodup {seen : List (List Char)} {fixes : List QuickFix}
    (nodup : (fixes.map (·.replacement)).Nodup)
    (unseen : ∀ fix ∈ fixes, fix.replacement ∉ seen) : distinctFrom seen fixes = fixes := by
  fun_induction distinctFrom seen fixes with
  | case1 => rfl
  | case2 seen first rest isSeen =>
      exact absurd (by simpa using isSeen) (unseen first List.mem_cons_self)
  | case3 seen first rest _ ih =>
      rw [List.map_cons, List.nodup_cons] at nodup
      rw [ih nodup.2]
      intro fix later again
      rcases List.mem_cons.mp again with same | isSeen
      · exact nodup.1 (same ▸ List.mem_map_of_mem later)
      · exact unseen fix (List.mem_cons_of_mem first later) isSeen

/-- The fix that is offered first is the first one of the list. -/
theorem head?_distinct (fixes : List QuickFix) : (distinct fixes).head? = fixes.head? := by
  cases fixes with
  | nil => rfl
  | cons fix rest => simp [distinct, distinctFrom]

end QuickFix

namespace Diagnostic

variable {diagnostic : Diagnostic} {code : DiagnosticCode} {start distance : Int}
  {flagged : List Char} {offered : List (List Char)} {fix : QuickFix}

theorem fits_iff {length : Int} :
    diagnostic.fits length = true ↔
      0 ≤ diagnostic.start ∧ diagnostic.start < diagnostic.stop ∧ diagnostic.stop ≤ length := by
  simp only [fits, Bool.and_eq_true, decide_eq_true_eq, and_assoc]

/-- The diagnostic moved by a distance to either side. -/
def move (distance : Int) (diagnostic : Diagnostic) : Diagnostic :=
  { diagnostic with
    start := diagnostic.start + distance
    stop := diagnostic.stop + distance }

theorem move_ofValue (distance : Int) (severity message) (start : Int) (value suggestion code hint)
    (fixes : List QuickFix) :
    (ofValue severity message start value suggestion code hint fixes).move distance =
      ofValue severity message (start + distance) value suggestion code hint fixes := by
  simp only [move, ofValue, Diagnostic.mk.injEq, true_and, and_true]
  omega

/-- A diagnostic that is made with fixes that put different texts has them all. -/
theorem fixes_ofValue (severity message) (start : Int) (value suggestion code hint)
    {fixes : List QuickFix} (nodup : (fixes.map (·.replacement)).Nodup) :
    (ofValue severity message start value suggestion code hint fixes).fixes = fixes :=
  QuickFix.distinctFrom_of_nodup nodup fun _ _ => List.not_mem_nil

/-- A diagnostic whose fixes put different texts, the first of them the one that is suggested. -/
structure Coherent (diagnostic : Diagnostic) : Prop where
  distinct : (diagnostic.fixes.map (·.replacement)).Nodup
  leads : ∃ fix ∈ diagnostic.fixes.head?, diagnostic.suggestion = some fix.replacement

/-- A diagnostic with a code for a piece of a text that begins at `start`, and the texts that
it offers to put in the place of that piece. -/
structure Reports (diagnostic : Diagnostic) (code : DiagnosticCode) (start : Int)
    (flagged : List Char) (offered : List (List Char)) : Prop where
  code_eq : diagnostic.code = some code
  start_eq : diagnostic.start = start
  stop_eq : diagnostic.stop = start + flagged.length
  offers : ∀ fix ∈ diagnostic.fixes, fix.replacement ∈ offered
  offers_first : ∀ fix ∈ diagnostic.fixes.head?, offered.head? = some fix.replacement
  coherent : diagnostic.Coherent

/-- A diagnostic that is made with its first replacement as the suggestion is coherent. -/
theorem reports_ofValue (severity message) (start : Int) (value replacement code hint)
    (fixes : List QuickFix)
    (leads : (fixes.map (·.replacement)).head? = some replacement := by rfl) :
    (ofValue severity message start value (some replacement) (some code) hint fixes).Reports code
      start value (fixes.map (·.replacement)) where
  code_eq := rfl
  start_eq := rfl
  stop_eq := rfl
  offers := fun _ member => List.mem_map_of_mem (QuickFix.mem_of_mem_distinctFrom member)
  offers_first := fun fix isFirst => by
    rw [List.head?_map, ← QuickFix.head?_distinct]
    exact congrArg (Option.map (·.replacement)) isFirst
  coherent := by
    rw [List.head?_map, Option.map_eq_some_iff] at leads
    obtain ⟨fix, isFirst, rfl⟩ := leads
    exact ⟨QuickFix.nodup_distinctFrom [] fixes, fix,
      (QuickFix.head?_distinct fixes).trans isFirst, rfl⟩

/-- Every fix of a diagnostic that offers one text puts that text. -/
theorem Reports.eq_of_mem {text : List Char}
    (reports : diagnostic.Reports code start flagged [text]) (member : fix ∈ diagnostic.fixes) :
    fix.replacement = text :=
  List.mem_singleton.mp (reports.offers fix member)

/-- The first fix puts the text that is offered first. -/
theorem Reports.eq_of_first {text : List Char} {others : List (List Char)}
    (reports : diagnostic.Reports code start flagged (text :: others))
    (isFirst : fix ∈ diagnostic.fixes.head?) : fix.replacement = text :=
  (Option.some.inj (reports.offers_first fix isFirst)).symm

/-- A text that a diagnostic offers, as its suggestion or in one of its fixes. -/
def Offers (diagnostic : Diagnostic) (text : List Char) : Prop :=
  diagnostic.suggestion = some text ∨ ∃ fix ∈ diagnostic.fixes, fix.replacement = text

theorem Reports.mem_of_offers {text : List Char}
    (reports : diagnostic.Reports code start flagged offered) (offers : diagnostic.Offers text) :
    text ∈ offered := by
  rcases offers with suggested | ⟨fix, member, rfl⟩
  · obtain ⟨fix, isFirst, sameText⟩ := reports.coherent.leads
    obtain rfl : text = fix.replacement := Option.some.inj (suggested.symm.trans sameText)
    exact reports.offers fix (List.mem_of_mem_head? isFirst)
  · exact reports.offers fix member

/-- The text after a fix of a diagnostic. -/
def applyFix (diagnostic : Diagnostic) (fix : QuickFix) (text : List Char) : List Char :=
  (Edit.mk diagnostic.start.toNat diagnostic.stop.toNat fix.replacement).apply text

/-- What stands where a diagnostic points after a fix of it: the replacement, and what
followed the range. -/
theorem Reports.drop_applyFix {place : Nat}
    (reports : diagnostic.Reports code place flagged offered) (fix : QuickFix)
    {text : List Char} (inside : place ≤ text.length) :
    (diagnostic.applyFix fix text).drop place =
      fix.replacement ++ (text.drop place).drop flagged.length := by
  have startEq : diagnostic.start.toNat = place := by
    rw [reports.start_eq, Int.toNat_natCast]
  have stopEq : diagnostic.stop.toNat = place + flagged.length := by
    rw [reports.stop_eq, ← Int.natCast_add, Int.toNat_natCast]
  have taken : (text.take place).length = place := by
    rw [List.length_take, Nat.min_eq_left inside]
  rw [applyFix, Edit.apply, startEq, stopEq, List.append_assoc, List.drop_left' taken,
    List.drop_drop]

/-- A diagnostic about a match of a pattern fits the text. -/
theorem Reports.fits_text {found : Found} {pattern : Pattern} {text : List Char}
    (reports : diagnostic.Reports code found.position found.text offered)
    (isMatch : found.Matches pattern text) (covers : pattern.CoversText) :
    diagnostic.fits text.length = true := by
  obtain ⟨nonempty, inside⟩ := isMatch.inside covers
  rw [Found.stop] at nonempty inside
  rw [fits_iff, reports.start_eq, reports.stop_eq]
  omega

/-- Where a pattern matches nothing after a fix, it is not reported again. -/
theorem Reports.start_ne {again : Diagnostic} {codeAgain : DiagnosticCode}
    {offeredAgain : List (List Char)} {found foundAgain : Found} {pattern : Pattern}
    {text : List Char} (reports : diagnostic.Reports code found.position found.text offered)
    (reportsAgain : again.Reports codeAgain foundAgain.position foundAgain.text offeredAgain)
    (inside : diagnostic.start ≤ text.length)
    (isMatch : foundAgain.Matches pattern (diagnostic.applyFix fix text))
    (unmatched : ∀ before, pattern before
      (fix.replacement ++ (text.drop found.position).drop found.text.length) = none) :
    again.start ≠ diagnostic.start := by
  intro sameStart
  rw [reports.start_eq] at inside
  rw [reportsAgain.start_eq, reports.start_eq, Int.natCast_inj] at sameStart
  rw [Found.Matches, sameStart, reports.drop_applyFix fix (by omega), unmatched] at isMatch
  simp at isMatch

end Diagnostic

end InlineMarkers
