import InlineMarkers.Proofs.Editor.WindowRuns
import InlineMarkers.Proofs.Validation.LocalFix

/-!
# Which diagnostics a tooltip lists

The tooltip lists diagnostics of the note as it was when the timer ended.  Every
edit hides it, so while it can be seen the note stays as it was, with one
exception: a completion that is put in changes the note and leaves the tooltip in
sight.  Other settings leave it in sight as well, although they change the
diagnostics.
-/

namespace InlineMarkers.NoteWindow

open Calendar Validation

variable {start window moment next : NoteWindow} {actions after : List WindowAction}
  {action : WindowAction} {answer : WindowAnswer}

/-- The entries of a window's tooltip were diagnostics at a moment of the run.  The note and its
diagnostics are the same since, unless a completion was put in or other settings were given. -/
structure ShownSince (start : NoteWindow) (actions : List WindowAction)
    (window moment : NoteWindow) (after : List WindowAction) : Prop extends
    start.CameBy actions window moment after where
  listed : window.tooltip.Lists moment.diagnostics
  unchanged : (∃ value, .accepted value ∈ moment.toldDuring after) ∨
    (∃ config, .updateSettings config ∈ after) ∨
    window.text = moment.text ∧ window.diagnostics = moment.diagnostics

theorem ShownSince.change (ran : start.run actions = .ok window)
    (shown : window.tooltip.visible = true →
      ∃ moment after, start.ShownSince actions window moment after)
    (done : window.step action = .ok (answer, next)) (change : window.Change action next)
    (visible : next.tooltip.visible = true) :
    ∃ moment after, start.ShownSince (actions ++ [action]) next moment after := by
  cases change with
  | edited _ edited => exact absurd (edited.hidden.symm.trans visible) Bool.false_ne_true
  | completed _ completed =>
      rw [completed.tooltip] at visible
      obtain ⟨moment, after, since⟩ := shown visible
      refine ⟨moment, after ++ [action], since.concat done, ?_,
        .inl (completed.told.imp fun _ told => since.told_of_last done told)⟩
      rw [completed.tooltip]
      exact since.listed
  | configured given configured =>
      rw [configured.tooltip] at visible
      obtain ⟨moment, after, since⟩ := shown visible
      refine ⟨moment, after ++ [action], since.concat done, ?_, .inr (.inl ⟨next.config, ?_⟩)⟩
      · rw [configured.tooltip]
        exact since.listed
      · rw [given]
        exact List.mem_append_right _ List.mem_cons_self
  | rested _ rested =>
      have sameDiagnostics : next.diagnostics = window.diagnostics := by
        rw [diagnostics, rested.controller]
        rfl
      rcases rested.tooltip visible with same | current
      · rw [same] at visible
        obtain ⟨moment, after, since⟩ := shown visible
        refine ⟨moment, after ++ [action], since.concat done, ?_, ?_⟩
        · rw [same]
          exact since.listed
        · rw [rested.text, sameDiagnostics]
          exact since.unchanged.imp
            (fun ⟨value, told⟩ => ⟨value, since.told_of_before done told⟩)
            (Or.imp_left fun ⟨config, given⟩ => ⟨config, List.mem_append_left _ given⟩)
      · exact ⟨next, [], .here (run_concat ran done), current, .inr (.inr ⟨rfl, rfl⟩)⟩

/-- What a visible tooltip lists were diagnostics of the note at a moment of the run.  The note
and its diagnostics are still the same, unless a completion was put in since or other settings
were given. -/
theorem tooltip_run (config : MarkerConfig) (today : Date) (actions : List WindowAction)
    (stays : .detach ∉ actions) :
    ∃ window, (opened config today).run actions = .ok window ∧
      (window.tooltip.visible = true →
        ∃ moment after, (opened config today).CameBy actions window moment after ∧
          window.tooltip.Lists moment.diagnostics ∧
          ((∃ value, .accepted value ∈ moment.toldDuring after) ∨
            (∃ config, .updateSettings config ∈ after) ∨
            window.text = moment.text ∧ window.diagnostics = moment.diagnostics)) := by
  have attached : (opened config today).attached = true := rfl
  obtain ⟨window, ran, -, shown⟩ := exists_run
    (P := fun actions window => window.tooltip.visible = true →
      ∃ moment after, (opened config today).ShownSince actions window moment after)
    attached
    (fun visible => absurd visible Bool.false_ne_true)
    (fun ran done change shown visible => ShownSince.change ran shown done change visible)
    stays
  refine ⟨window, ran, fun visible => ?_⟩
  obtain ⟨moment, after, since⟩ := shown visible
  exact ⟨moment, after, since.toCameBy, since.listed, since.unchanged⟩

/-- The tooltip of a note that is left alone lists its diagnostic. -/
theorem tooltip_run_of_typed_priority :
    let actions : List WindowAction := [.insertText "#hgh".toList, .timeout, .moveCursor 2]
    .detach ∉ actions ∧
      ∃ window, (opened .standard newYear).run actions = .ok window ∧
        window.tooltip.visible = true ∧ window.tooltip.entries.length = 1 ∧
        window.tooltip.Lists window.diagnostics := by
  intro actions
  have stays : .detach ∉ actions := by simp [actions]
  obtain ⟨window, ran, shown⟩ := tooltip_run .standard newYear actions stays
  have seen : ((opened .standard newYear).run actions).map
      (fun window => (window.tooltip.visible, window.tooltip.entries.length)) = .ok (true, 1) := by
    decide +kernel
  have told : (opened .standard newYear).toldDuring actions = [.changed 1] := by decide +kernel
  rw [ran, Except.map, Except.ok.injEq, Prod.mk.injEq] at seen
  obtain ⟨visible, count⟩ := seen
  obtain ⟨moment, after, cameBy, lists, ⟨value, accepted⟩ | ⟨config, given⟩ | ⟨-, same⟩⟩ :=
    shown visible
  · have accepted := cameBy.told_of_since accepted
    simp [told] at accepted
  · obtain ⟨before, whole, -⟩ := cameBy.before
    have given : .updateSettings config ∈ actions := whole ▸ List.mem_append_right before given
    simp [actions] at given
  · exact ⟨stays, window, ran, visible, count, same ▸ lists⟩

/-- A completion clears the only diagnostic of a note, and so do other settings, but the tooltip
still lists it, and its first button then spoils the completed word. -/
theorem exists_tooltip_without_diagnostics :
    (∃ window next,
      (opened .standard newYear).run
        [.insertText "#hgh".toList, .timeout,
          .applyCompletion (some ⟨"high", "High Priority", none, none⟩)] = .ok window ∧
      window.tooltip.visible = true ∧ window.tooltip.entries.length = 1 ∧
      window.diagnostics = [] ∧ window.text = "#high".toList ∧
      window.clickFix 0 = .ok next ∧ next.text = "#highh".toList) ∧
    ∃ window,
      (opened .standard newYear).run
        [.insertText "#hgh".toList, .timeout,
          .updateSettings { MarkerConfig.standard with enabled := false }] = .ok window ∧
      window.tooltip.visible = true ∧ window.tooltip.entries.length = 1 ∧
      window.diagnostics = [] := by
  constructor
  · have seen : ((opened .standard newYear).run [.insertText "#hgh".toList, .timeout,
        .applyCompletion (some ⟨"high", "High Priority", none, none⟩)]).map (fun window =>
          ((window.tooltip.visible, window.tooltip.entries.length, window.diagnostics.length),
            window.text, (window.clickFix 0).map (·.text))) =
        .ok ((true, 1, 0), "#high".toList, .ok "#highh".toList) := by
      decide +kernel
    obtain ⟨window, ran, seen⟩ := exists_of_map_ok seen
    simp only [Prod.mk.injEq, List.length_eq_zero_iff] at seen
    obtain ⟨⟨visible, count, none⟩, text, clicked⟩ := seen
    obtain ⟨next, performed, textAfter⟩ := exists_of_map_ok clicked
    exact ⟨window, next, ran, visible, count, none, text, performed, textAfter⟩
  · have seen : ((opened .standard newYear).run [.insertText "#hgh".toList, .timeout,
        .updateSettings { MarkerConfig.standard with enabled := false }]).map (fun window =>
          (window.tooltip.visible, window.tooltip.entries.length, window.diagnostics.length)) =
        .ok (true, 1, 0) := by
      decide +kernel
    obtain ⟨window, ran, seen⟩ := exists_of_map_ok seen
    simp only [Prod.mk.injEq, List.length_eq_zero_iff] at seen
    exact ⟨window, ran, seen⟩

end InlineMarkers.NoteWindow
