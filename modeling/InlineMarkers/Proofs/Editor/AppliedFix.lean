import InlineMarkers.Editor.QuickFix

/-!
# What applying a quick fix leaves behind

A quick fix that is applied has replaced one range of the text and focused the
surface, and nothing else.  A quick fix that is not applied leaves the surface as
it was, with one exception: the text is replaced before the surface is focused, so
when the surface cannot be focused the answer is that the fix was not applied, and
the text is replaced all the same.
-/

namespace InlineMarkers

namespace Edit

variable {edit : Edit} {entry : DiagnosticEntry} {given : Value} {text : List Char}

/-- The edit that a quick fix asks for: the text that is given, or else the entry's own, takes
the place of the entry's range, which is a proper one of the text. -/
structure Fixes (edit : Edit) (entry : DiagnosticEntry) (given : Value) (text : List Char) :
    Prop where
  replacement : given ≠ .null ∧ given.display = .ok edit.replacement ∨
    given = .null ∧ entry.fields.replacement? = .ok (some edit.replacement)
  start : entry.fields.integerField "start" = .ok edit.start
  stop : entry.fields.integerField "end" = .ok edit.stop
  ordered : edit.start < edit.stop
  inside : edit.stop ≤ text.length

theorem replacement?_eq_some_iff {replacement : List Char} :
    replacement? entry given = some replacement ↔
      given ≠ .null ∧ given.display = .ok replacement ∨
        given = .null ∧ entry.fields.replacement? = .ok (some replacement) := by
  unfold replacement?
  split
  · cases entry.fields.replacement? <;> simp [Except.toOption]
  · rename_i isGiven
    have notNull : given ≠ .null := isGiven
    cases given.display <;> simp [notNull, Except.toOption]

theorem range?_eq_some_iff {start stop length : Nat} :
    range? entry length = some (start, stop) ↔
      entry.fields.integerField "start" = .ok start ∧
        entry.fields.integerField "end" = .ok stop ∧ start < stop ∧ stop ≤ length := by
  unfold range?
  split
  · rename_i first last startEq stopEq
    rw [startEq, stopEq, Except.ok.injEq, Except.ok.injEq]
    split
    · rw [Option.some.injEq, Prod.mk.injEq]
      omega
    · simp only [reduceCtorEq, false_iff]
      omega
  · rename_i unread
    simp only [reduceCtorEq, false_iff]
    exact fun ⟨startEq, stopEq, _⟩ => unread _ _ startEq stopEq

theorem ofFix?_eq_some_iff : ofFix? text entry given = some edit ↔ edit.Fixes entry given text := by
  simp only [ofFix?, Option.bind_eq_bind, Option.bind_eq_some_iff, Option.pure_def]
  constructor
  · rintro ⟨replacement, isReplacement, ⟨start, stop⟩, isRange, isEdit⟩
    obtain rfl := Option.some.inj isEdit
    obtain ⟨startEq, stopEq, ordered, inside⟩ := range?_eq_some_iff.mp isRange
    exact ⟨replacement?_eq_some_iff.mp isReplacement, startEq, stopEq, ordered, inside⟩
  · intro fixes
    exact ⟨edit.replacement, replacement?_eq_some_iff.mpr fixes.replacement,
      (edit.start, edit.stop),
      range?_eq_some_iff.mpr ⟨fixes.start, fixes.stop, fixes.ordered, fixes.inside⟩, rfl⟩

end Edit

namespace PlainSurface

variable {surface : PlainSurface} {entry : DiagnosticEntry} {given : Value} {edit : Edit}

/-- The surface with an edit made, whether it is focused after that or not. -/
def edited (surface : PlainSurface) (edit : Edit) : PlainSurface :=
  { surface with text := edit.apply surface.text }

theorem applyQuickFix_of_fixes (attached : surface.attached = true)
    (fixes : edit.Fixes entry given surface.text) :
    surface.applyQuickFix entry given =
      if surface.meets .isAttached ∧ surface.meets .text ∧ surface.meets .replace then
        if surface.meets .focus then
          (true, { surface.edited edit with focused := surface.focused + 1 })
        else (false, surface.edited edit)
      else (false, surface) := by
  have made : Edit.ofFix? surface.text entry given = some edit := Edit.ofFix?_eq_some_iff.mpr fixes
  simp only [applyQuickFix, perform, attached, made, edited]
  cases surface.meets .isAttached <;> cases surface.meets .text <;>
    cases surface.meets .replace <;> rfl

theorem applyQuickFix_of_unable
    (unable : ¬(surface.attached = true ∧ ∃ edit : Edit, edit.Fixes entry given surface.text)) :
    surface.applyQuickFix entry given = (false, surface) := by
  unfold applyQuickFix
  split
  · rename_i reached
    split
    · rename_i edit made
      simp only [Bool.and_eq_true] at reached
      exact absurd ⟨reached.1.2, edit, Edit.ofFix?_eq_some_iff.mp made⟩ unable
    · rfl
  · rfl

/-- How a surface answers to a quick fix: the fix is applied, or it is made and the surface cannot
be focused then, or nothing is done. -/
inductive Answers (surface : PlainSurface) (entry : DiagnosticEntry) (given : Value) :
    Bool × PlainSurface → Prop where
  | applied (edit : Edit) (attached : surface.attached = true)
      (unbroken : ∀ request, surface.meets request = true)
      (fixes : edit.Fixes entry given surface.text) :
      surface.Answers entry given
        (true, { surface.edited edit with focused := surface.focused + 1 })
  | unfocused (edit : Edit) (attached : surface.attached = true)
      (unfocusable : ∀ request, surface.meets request = true ↔ request ≠ .focus)
      (fixes : edit.Fixes entry given surface.text) :
      surface.Answers entry given (false, surface.edited edit)
  | refused : surface.Answers entry given (false, surface)

theorem answers_applyQuickFix (surface : PlainSurface) (entry : DiagnosticEntry) (given : Value) :
    surface.Answers entry given (surface.applyQuickFix entry given) := by
  by_cases able : surface.attached = true ∧ ∃ edit : Edit, edit.Fixes entry given surface.text
  · obtain ⟨attached, edit, fixes⟩ := able
    rw [applyQuickFix_of_fixes attached fixes]
    split
    case isTrue reached =>
      obtain ⟨knows, reads, replaces⟩ := reached
      split
      case isTrue focuses =>
        refine .applied edit attached (fun request => ?_) fixes
        cases request <;> assumption
      case isFalse unfocusable =>
        refine .unfocused edit attached (fun request => ?_) fixes
        cases request <;> simp_all only [ne_eq, reduceCtorEq, not_false_eq_true, not_true_eq_false]
    case isFalse => exact .refused
  · rw [applyQuickFix_of_unable able]
    exact .refused

/-- A quick fix is applied exactly when the surface is attached, meets every request, and the
fix asks for an edit of a proper range; then that range is replaced and the surface focused.  It is
not applied and yet leaves something behind exactly when of all requests only the focus fails: the
range is replaced then as well. -/
theorem applyQuickFix?_atomic (surface after : Option PlainSurface) (entry : DiagnosticEntry)
    (given : Value) :
    (applyQuickFix? surface entry given = (true, after) ↔
      ∃ (before : PlainSurface) (edit : Edit), surface = some before ∧ before.attached = true ∧
        (∀ request, before.meets request = true) ∧ edit.Fixes entry given before.text ∧
        after = some { before with
          text := before.text.take edit.start ++ edit.replacement ++ before.text.drop edit.stop
          focused := before.focused + 1 }) ∧
    (applyQuickFix? surface entry given = (false, after) ∧ after ≠ surface ↔
      ∃ (before : PlainSurface) (edit : Edit), surface = some before ∧ before.attached = true ∧
        (∀ request, before.meets request = true ↔ request ≠ .focus) ∧
        edit.Fixes entry given before.text ∧
        after = some { before with
          text := before.text.take edit.start ++ edit.replacement ++ before.text.drop edit.stop } ∧
        after ≠ surface) := by
  refine ⟨⟨fun applied => ?_, ?_⟩, fun ⟨failed, changed⟩ => ?_, ?_⟩
  · cases surface with
    | none => cases applied
    | some before =>
        have answers := before.answers_applyQuickFix entry given
        simp only [applyQuickFix?] at applied
        generalize before.applyQuickFix entry given = outcome at answers applied
        cases answers with
        | applied edit attached unbroken fixes =>
            obtain rfl := (Prod.mk.inj applied).2
            exact ⟨before, edit, rfl, attached, unbroken, fixes, rfl⟩
        | unfocused | refused => cases applied
  · rintro ⟨before, edit, rfl, attached, unbroken, fixes, rfl⟩
    rw [applyQuickFix?, applyQuickFix_of_fixes attached fixes,
      if_pos ⟨unbroken _, unbroken _, unbroken _⟩, if_pos (unbroken _)]
    rfl
  · cases surface with
    | none => exact absurd (Prod.mk.inj failed).2.symm changed
    | some before =>
        have answers := before.answers_applyQuickFix entry given
        simp only [applyQuickFix?] at failed
        generalize before.applyQuickFix entry given = outcome at answers failed
        cases answers with
        | applied => cases failed
        | unfocused edit attached unfocusable fixes =>
            obtain rfl := (Prod.mk.inj failed).2
            exact ⟨before, edit, rfl, attached, unfocusable, fixes, rfl, changed⟩
        | refused => exact absurd (Prod.mk.inj failed).2.symm changed
  · rintro ⟨before, edit, rfl, attached, unfocusable, fixes, rfl, changed⟩
    refine ⟨?_, changed⟩
    have meets {request : SurfaceRequest} (other : request ≠ .focus) :=
      (unfocusable request).mpr other
    have unfocused : ¬before.meets .focus = true := fun focuses => (unfocusable _).mp focuses rfl
    rw [applyQuickFix?, applyQuickFix_of_fixes attached fixes,
      if_pos ⟨meets nofun, meets nofun, meets nofun⟩, if_neg unfocused]
    rfl

/-- A priority that is fixed on a surface that cannot be focused: the answer is that the fix was
not applied, but the text is the fixed one. -/
theorem exists_unfocused_fix :
    applyQuickFix? (some ⟨"#hgh".toList, true, 0, [.focus]⟩)
        (.foreign (.object [("start", .int 1), ("end", .int 4),
          ("suggested_replacement", .text "high")])) .null =
      (false, some ⟨"#high".toList, true, 0, [.focus]⟩) := by
  decide +kernel

end PlainSurface

end InlineMarkers
