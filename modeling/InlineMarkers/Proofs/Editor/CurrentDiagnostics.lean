import InlineMarkers.Proofs.Editor.WindowRuns
import InlineMarkers.Proofs.Validation.LocalFix

/-!
# The diagnostics are those of the note

The controller is told of every change of the note, by whatever way the change
came: by typing, by a quick fix or by a completion.  It is told of other settings
as well, and validates the note that it knows once more.  So in every window that
can be reached, its text is the note and its diagnostics are those of the note
under the settings given last.
-/

namespace InlineMarkers

open Calendar Validation

/-- Other settings are taken, and the text that is remembered is validated under them. -/
theorem Controller.updateSettings_spec (validator : Validator) (controller : Controller)
    (config : MarkerConfig) :
    (controller.updateSettings validator config).1.config = config ∧
      (controller.updateSettings validator config).1.text = controller.text ∧
      (controller.updateSettings validator config).1.diagnostics =
        (validator config controller.text).getD [] := by
  unfold updateSettings
  dsimp only
  split <;> exact ⟨rfl, rfl, rfl⟩

namespace NoteWindow

variable {window next : NoteWindow} {action : WindowAction}

/-- The controller has the settings of the window, its text and the diagnostics that belong to
both. -/
structure Follows (window : NoteWindow) : Prop where
  config : window.controller.config = window.config
  text : window.controller.text = window.text
  diagnostics :
    window.controller.diagnostics = (window.validator window.config window.text).getD []

theorem follows_opened (config : MarkerConfig) (today : Date) : (opened config today).Follows where
  config := rfl
  text := rfl
  diagnostics := rfl

theorem Follows.of_request {text : List Char} (follows : window.Follows)
    (continues : window.Continues next) (config : next.config = window.config)
    (controller : next.controller = (window.controller.request window.validator text).1)
    (sameText : next.text = text) : next.Follows where
  config := by
    rw [controller, config]
    exact follows.config
  text := by
    rw [controller, sameText]
    rfl
  diagnostics := by
    rw [controller, continues.validator, config, sameText, ← follows.config]
    rfl

theorem Follows.change (follows : window.Follows) (change : window.Change action next) :
    next.Follows := by
  cases change with
  | edited _ edited =>
      exact follows.of_request edited.toContinues edited.config edited.controller rfl
  | completed _ completed =>
      exact follows.of_request completed.toContinues completed.config completed.controller rfl
  | configured _ configured =>
      obtain ⟨config, text, diagnostics⟩ :=
        Controller.updateSettings_spec window.validator window.controller next.config
      rw [← configured.controller] at config text diagnostics
      -- the text that is validated is the one that the controller remembers
      have sameText : next.controller.text = next.text := by
        rw [text, follows.text, configured.text]
      refine ⟨config, sameText, ?_⟩
      rw [diagnostics, configured.validator, ← sameText, text]
  | rested _ rested =>
      refine ⟨?_, ?_, ?_⟩
      · rw [rested.controller, rested.config]
        exact follows.config
      · rw [rested.controller, rested.text]
        exact follows.text
      · rw [rested.controller, rested.validator, rested.config, rested.text]
        exact follows.diagnostics

/-- Whatever is done in a window, its controller knows the note, and its diagnostics are those of
the note under the settings given last. -/
theorem diagnostics_run (config : MarkerConfig) (today : Date) (actions : List WindowAction)
    (stays : .detach ∉ actions) :
    ∃ window, (opened config today).run actions = .ok window ∧
      window.controller.text = window.text ∧
      window.diagnostics =
        Validation.validate (actions.foldl settingsAfter config) today window.text := by
  have attached : (opened config today).attached = true := rfl
  obtain ⟨window, ran, -, follows, validator, settings⟩ := exists_run
    (P := fun actions window => window.Follows ∧
      window.validator = (opened config today).validator ∧
      window.config = actions.foldl settingsAfter config)
    attached ⟨follows_opened config today, rfl, rfl⟩
    (fun _ _ change ⟨follows, validator, settings⟩ =>
      ⟨follows.change change, change.continues.validator.trans validator, by
        rw [change.config, settings, List.foldl_concat]⟩)
    stays
  refine ⟨window, ran, follows.text, ?_⟩
  rw [diagnostics, follows.diagnostics, validator, settings]
  rfl

/-- A note that is typed, completed, edited otherwise and fixed, and then looked at under
settings that find its tag too long. -/
theorem diagnostics_run_of_long_tag :
    let strict := { MarkerConfig.standard with maxTagLength := 4 }
    let actions : List WindowAction :=
      [.insertText "😀 #hgh".toList, .applyCompletion (some ⟨"high", "High", none, none⟩),
        .edit (Document.setText "#hig [meeting]".toList),
        .applyQuickFix (.foreign (.object [("start", .int 1), ("end", .int 4)])) (.text "high"),
        .refreshCompletions, .updateSettings strict]
    .detach ∉ actions ∧
      ∃ window, (opened .standard newYear).run actions = .ok window ∧
        window.text = "#high [meeting]".toList ∧ window.diagnostics.length = 1 ∧
        window.controller.text = window.text ∧
        window.diagnostics = Validation.validate strict newYear window.text := by
  intro strict actions
  have stays : .detach ∉ actions := by simp [actions]
  obtain ⟨window, ran, sameText, current⟩ := diagnostics_run .standard newYear actions stays
  have seen : ((opened .standard newYear).run actions).map
      (fun window => (window.text, window.diagnostics.length)) =
        .ok ("#high [meeting]".toList, 1) := by
    decide +kernel
  rw [ran, Except.map, Except.ok.injEq, Prod.mk.injEq] at seen
  exact ⟨stays, window, ran, seen.1, seen.2, sameText, current⟩

end NoteWindow

end InlineMarkers
