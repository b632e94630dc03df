import InlineMarkers.Proofs.Editor.AppliedFix
import InlineMarkers.Proofs.Editor.WindowSteps
import InlineMarkers.Proofs.Text.UnitOffsets
import InlineMarkers.Proofs.Validation.LocalFix

/-!
# Edits of a document in units

An edit is made in characters, the document of the editor is kept in UTF-16
units.  A document that holds the units of a text holds, after an edit, those of
the edited text, and its cursor stands behind the replacement.

So a window and a plain surface that have the same text have the same text after
any quick fix, and answer alike whether it was applied.
-/

namespace InlineMarkers

open Text Validation

namespace Document

variable {document : Document} {text : List Char} {edit : Edit}

/-- The document is made of the units of a text. -/
def Holds (document : Document) (text : List Char) : Prop :=
  document.units = toUnits text

theorem Holds.text_eq (holds : document.Holds text) : document.text = text := by
  rw [Document.text, holds, ofUnits_toUnits]

theorem Holds.replace (holds : document.Holds text) (ordered : edit.start ≤ edit.stop)
    (within : edit.stop ≤ text.length) :
    (document.replace edit).Holds (edit.apply text) := by
  have unitsAfter : (document.replace edit).units =
      (toUnits text).take (Text.units (text.take edit.start)) ++ toUnits edit.replacement ++
        (toUnits text).drop (Text.units (text.take edit.stop)) := by
    rw [← unitOffset_of_le (Nat.le_trans ordered within), ← unitOffset_of_le within, ← holds,
      ← holds.text_eq]
    rfl
  rw [Holds, unitsAfter, take_toUnits, drop_toUnits, Edit.apply, toUnits_append, toUnits_append]

theorem Holds.cursorIndex_replace (holds : document.Holds text) (ordered : edit.start ≤ edit.stop)
    (within : edit.stop ≤ text.length) :
    (document.replace edit).cursorIndex = edit.start + edit.replacement.length := by
  -- the cursor stands behind the units of what is kept in front and of the replacement
  have position : (document.replace edit).position =
      Text.units (text.take edit.start ++ edit.replacement) := by
    rw [units_append, ← unitOffset_of_le (Nat.le_trans ordered within),
      ← length_toUnits edit.replacement, ← holds.text_eq]
    rfl
  rw [cursorIndex, (holds.replace ordered within).text_eq, position, Edit.apply, indexOfUnit_units,
    List.length_append, List.length_take, Nat.min_eq_left (Nat.le_trans ordered within)]

end Document

namespace NoteWindow

variable {window : NoteWindow} {surface : PlainSurface}

/-- The window shows what a plain surface holds, and either may be detached if the other is. -/
structure Mirrors (window : NoteWindow) (surface : PlainSurface) : Prop where
  holds : window.document.Holds surface.text
  attached : window.attached = surface.attached
  unbroken : surface.broken = []

theorem Mirrors.text (mirrors : window.Mirrors surface) : window.text = surface.text :=
  mirrors.holds.text_eq

theorem Mirrors.meets (mirrors : window.Mirrors surface) (request : SurfaceRequest) :
    surface.meets request = true := by
  rw [PlainSurface.meets, mirrors.unbroken]
  rfl

/-- A quick fix does to the window what it does to the plain surface. -/
theorem Mirrors.applyQuickFix (mirrors : window.Mirrors surface) (entry : DiagnosticEntry)
    (given : Value) :
    ∃ next, window.applyQuickFix entry given = .ok ((surface.applyQuickFix entry given).1, next) ∧
      next.Mirrors (surface.applyQuickFix entry given).2 := by
  simp only [NoteWindow.applyQuickFix, PlainSurface.applyQuickFix, mirrors.meets, mirrors.text,
    mirrors.attached, Bool.true_and, Bool.and_true]
  cases attached : surface.attached with
  | false => exact ⟨window, rfl, mirrors⟩
  | true =>
      cases fix : Edit.ofFix? surface.text entry given with
      | none => exact ⟨window, rfl, mirrors⟩
      | some edit =>
          obtain ⟨-, -, -, proper, within⟩ := Edit.ofFix?_eq_some_iff.mp fix
          obtain ⟨next, performed, edited, document⟩ :=
            performEdit_spec (mirrors.attached.trans attached) edit
          have holds := mirrors.holds.replace (Nat.le_of_lt proper) within
          simp only [Bool.not_true, Bool.false_eq_true, if_false, if_true, performed,
            PlainSurface.perform, mirrors.meets]
          refine ⟨{ next with tooltip := next.tooltip.hide }, rfl, ?_, ?_, mirrors.unbroken⟩
          · rwa [← document] at holds
          · exact edited.attached.trans mirrors.attached

/-- Quick fixes, one after the other, do to the window what they do to the plain surface. -/
theorem Mirrors.run (mirrors : window.Mirrors surface) (fixes : List (DiagnosticEntry × Value)) :
    ∃ next, window.run (fixes.map fun (entry, given) => .applyQuickFix entry given) = .ok next ∧
      next.Mirrors (fixes.foldl (fun surface (entry, given) =>
        (surface.applyQuickFix entry given).2) surface) := by
  induction fixes generalizing window surface with
  | nil => exact ⟨window, rfl, mirrors⟩
  | cons fix fixes ih =>
      have silent : { window with events := [] }.Mirrors surface :=
        ⟨mirrors.holds, mirrors.attached, mirrors.unbroken⟩
      obtain ⟨next, performed, mirrorsNext⟩ := silent.applyQuickFix fix.1 fix.2
      obtain ⟨last, ran, mirrorsLast⟩ := ih mirrorsNext
      have done : window.step (.applyQuickFix fix.1 fix.2) =
          .ok (.applied (surface.applyQuickFix fix.1 fix.2).1, next) := map_of_ok performed
      refine ⟨last, ?_, mirrorsLast⟩
      rw [List.map_cons, NoteWindow.run, List.foldlM_cons, done]
      exact ran

/-- Edits in characters are made truly in units, and so are quick fixes: the window has the
buffer of the plain surface afterwards. -/
theorem edits_in_units {document : Document} {text : List Char} (holds : document.Holds text)
    (mirrors : window.Mirrors surface) :
    (∀ start stop replacement, start ≤ stop → stop ≤ text.length →
      (document.replace ⟨start, stop, replacement⟩).text =
          text.take start ++ replacement ++ text.drop stop ∧
        (document.replace ⟨start, stop, replacement⟩).cursorIndex =
          start + replacement.length) ∧
    ∀ entry given, ∃ next,
      window.applyQuickFix entry given = .ok ((surface.applyQuickFix entry given).1, next) ∧
        next.text = (surface.applyQuickFix entry given).2.text ∧
        next.Mirrors (surface.applyQuickFix entry given).2 := by
  constructor
  · intro start stop replacement ordered within
    have replaced : (document.replace ⟨start, stop, replacement⟩).Holds
      (Edit.apply ⟨start, stop, replacement⟩ text) := holds.replace ordered within
    exact ⟨replaced.text_eq, holds.cursorIndex_replace ordered within⟩
  · intro entry given
    obtain ⟨next, performed, mirrorsNext⟩ := mirrors.applyQuickFix entry given
    exact ⟨next, performed, mirrorsNext.text, mirrorsNext⟩

/-- An edit between characters of two units, and a quick fix in their midst. -/
theorem edits_in_units_of_astral_text :
    let document := Document.setText "a😀b".toList
    let entry := DiagnosticEntry.foreign (.object [("start", .int 1), ("end", .int 2)])
    let window := { opened .standard newYear with document }
    document.Holds "a😀b".toList ∧ window.Mirrors ⟨"a😀b".toList, true, 0, []⟩ ∧
      (document.replace ⟨2, 3, "🎉c".toList⟩).text = "a😀🎉c".toList ∧
      (document.replace ⟨2, 3, "🎉c".toList⟩).cursorIndex = 4 ∧
      ∃ next, window.applyQuickFix entry (.text "x🎉") = .ok (true, next) ∧
        next.text = "ax🎉b".toList := by
  intro document entry window
  have holds : document.Holds "a😀b".toList := rfl
  have mirrors : window.Mirrors ⟨"a😀b".toList, true, 0, []⟩ := ⟨holds, rfl, rfl⟩
  obtain ⟨replaced, fixed⟩ := edits_in_units holds mirrors
  obtain ⟨text, cursor⟩ := replaced 2 3 "🎉c".toList (by decide) (by decide)
  obtain ⟨next, performed, textAfter, -⟩ := fixed entry (.text "x🎉")
  have seen : (PlainSurface.applyQuickFix ⟨"a😀b".toList, true, 0, []⟩ entry (.text "x🎉")) =
      (true, ⟨"ax🎉b".toList, true, 1, []⟩) := by decide +kernel
  rw [seen] at performed textAfter
  exact ⟨holds, mirrors, text, cursor, next, performed, textAfter⟩

end NoteWindow

end InlineMarkers
