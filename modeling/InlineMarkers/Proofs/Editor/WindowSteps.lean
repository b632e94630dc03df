import InlineMarkers.Editor.Window
import InlineMarkers.Proofs.Value.Attempts

/-!
# What an action does to a window

Most of what the window holds changes in few ways.  An edit validates the note,
hides the tooltip and looks for completions in the new text.  A completion that
is put in validates the note and leaves the tooltip and the remembered result
alone.  Other settings validate the note as it is.  All other actions leave the
note and its diagnostics alone; they may look for completions, or show the
diagnostics that there are.

`exists_step` says so of every action of a window whose surface is attached, and
that the action does not fail.  What holds of every window that can be reached
is derived from it alone.
-/

namespace InlineMarkers

open Calendar

/-- The result belongs to a text: it is for the marker that is being typed at some place. -/
def CompletionResult.FoundIn (result : CompletionResult) (text : List Char) : Prop :=
  ∃ cursor context, CompletionContext.detect text cursor = some context ∧
    result.kind = context.kind ∧ result.query = context.query ∧
    result.anchorStart = context.anchorStart ∧ result.anchorStop = context.anchorStop

theorem CompletionSource.foundIn_of_complete {source : CompletionSource} {text : List Char}
    {cursor limit : Option Int} {result : CompletionResult}
    (found : (source.complete text cursor limit).1 = some result) : result.FoundIn text := by
  unfold CompletionSource.complete at found
  cases detected : CompletionContext.detect text cursor with
  | none => simp [detected] at found
  | some context =>
      simp only [detected] at found
      split at found
      · simp at found
      · simp at found
      · obtain rfl := Option.some.inj found
        exact ⟨cursor, context, detected, rfl, rfl, rfl, rfl⟩

theorem Diagnostic.mem_of_mem_atPosition {diagnostic : Diagnostic} {diagnostics : List Diagnostic}
    {position : Int} (member : diagnostic ∈ Diagnostic.atPosition diagnostics position) :
    diagnostic ∈ diagnostics := by
  rw [Diagnostic.atPosition, List.mem_mergeSort] at member
  exact (List.mem_filter.mp member).1

namespace Tooltip

/-- The entries of a tooltip, and those that its buttons fix, are among some diagnostics. -/
def Lists (tooltip : Tooltip) (diagnostics : List Diagnostic) : Prop :=
  (∀ entry ∈ tooltip.entries, ∃ diagnostic ∈ diagnostics, entry = .diagnostic diagnostic) ∧
    ∀ row ∈ tooltip.rows, ∃ diagnostic ∈ diagnostics, row.entry = .diagnostic diagnostic

theorem entry_of_ofEntry {config : MarkerConfig} {entry : DiagnosticEntry} {row : TooltipRow}
    (made : TooltipRow.ofEntry config entry = .ok row) : row.entry = entry := by
  simp only [TooltipRow.ofEntry, bind_eq_ok_iff] at made
  obtain ⟨_, -, _, -, _, -, _, -, _, -, _, -, same⟩ := made
  rw [← Except.ok.inj same]

theorem lists_showDiagnostics (tooltip : Tooltip) {shown diagnostics : List Diagnostic}
    (among : ∀ diagnostic ∈ shown, diagnostic ∈ diagnostics) :
    (tooltip.showDiagnostics shown).Lists diagnostics := by
  constructor
  · intro entry listed
    obtain ⟨diagnostic, member, rfl⟩ := List.mem_map.mp listed
    exact ⟨diagnostic, among diagnostic member, rfl⟩
  · intro row listed
    obtain ⟨diagnostic, member, isRow⟩ := List.mem_filterMap.mp listed
    refine ⟨diagnostic, among diagnostic (List.mem_of_mem_take member), ?_⟩
    rw [diagnosticRow] at isRow
    split at isRow
    · rename_i made
      rw [← Option.some.inj isRow, entry_of_ofEntry made]
    · simp at isRow

end Tooltip

namespace NoteWindow

variable {window next : NoteWindow} {action : WindowAction}

/-- The settings of a window after an action. -/
def settingsAfter (config : MarkerConfig) : WindowAction → MarkerConfig
  | .updateSettings config => config
  | _ => config

/-- A list of completions is in sight, be it the active one or not. -/
def ListShown (window : NoteWindow) : Prop :=
  window.popup.visible = true ∨ window.panel.visible = true

/-- The window checks notes as before and can still reach its editor if it could before. -/
structure Continues (window next : NoteWindow) : Prop where
  attached : next.attached = window.attached
  validator : next.validator = window.validator

/-- The window edited: its note is validated, its tooltip hidden, and what it remembers of
completions belongs to its text. -/
structure Edited (window next : NoteWindow) : Prop extends Continues window next where
  config : next.config = window.config
  controller : next.controller = (window.controller.request window.validator next.text).1
  hidden : next.tooltip.visible = false
  found : ∀ result ∈ next.result, result.FoundIn next.text

/-- The window with a completion put in, after which no list is in sight. -/
structure Completed (window next : NoteWindow) : Prop extends Continues window next where
  config : next.config = window.config
  controller : next.controller = (window.controller.request window.validator next.text).1
  tooltip : next.tooltip = window.tooltip
  result : next.result = window.result
  hidden : ¬next.ListShown
  told : ∃ value, .accepted value ∈ next.events

/-- The window with the same note under other settings. -/
structure Configured (window next : NoteWindow) : Prop extends Continues window next where
  controller :
    next.controller = (window.controller.updateSettings window.validator next.config).1
  text : next.text = window.text
  tooltip : next.tooltip = window.tooltip.updateSettings next.config
  result : next.result = window.result
  shown : next.ListShown → window.ListShown

/-- The window with the same note and the same diagnostics.  A tooltip or a list that is in
sight was so before, with the same content, or its content belongs to the note. -/
structure Rested (window next : NoteWindow) : Prop extends Continues window next where
  config : next.config = window.config
  controller : next.controller = { window.controller with pending := next.controller.pending }
  text : next.text = window.text
  tooltip : next.tooltip.visible = true →
    next.tooltip = window.tooltip ∨ next.tooltip.Lists next.diagnostics
  result : next.result = window.result ∧ (next.ListShown → window.ListShown) ∨
    ∀ result ∈ next.result, result.FoundIn next.text

/-- What an action does, unless it detaches the surface. -/
inductive Change (window : NoteWindow) (action : WindowAction) (next : NoteWindow) : Prop where
  | edited (config : settingsAfter window.config action = window.config)
      (edited : window.Edited next)
  | completed (config : settingsAfter window.config action = window.config)
      (completed : window.Completed next)
  | configured (given : action = .updateSettings next.config) (configured : window.Configured next)
  | rested (config : settingsAfter window.config action = window.config)
      (rested : window.Rested next)

/-! ## The parts of an action -/

theorem map_of_ok {α β : Type} {f : α → β} {outcome : Except EditorError α} {value : α}
    (performed : outcome = .ok value) : outcome.map f = .ok (f value) := by
  rw [performed]
  rfl

/-- The windows differ in no more than the controller, the completions and what is shown of the
diagnostics. -/
structure Alike (window next : NoteWindow) : Prop extends Continues window next where
  config : next.config = window.config
  document : next.document = window.document
  tooltip : next.tooltip = window.tooltip

theorem validate_spec (window : NoteWindow) :
    ∃ next, window.validate = .ok next ∧ window.Alike next ∧ next.result = window.result ∧
      (next.ListShown → window.ListShown) ∧
      next.controller = (window.controller.request window.validator window.text).1 ∧
      ∀ event ∈ window.events, event ∈ next.events :=
  ⟨_, rfl, ⟨⟨rfl, rfl⟩, rfl, rfl, rfl⟩, rfl, id, rfl, fun _ told => List.mem_append_left _ told⟩

theorem showCompletions_spec (window : NoteWindow) (result : Option CompletionResult) :
    window.Alike (window.showCompletions result) ∧
      (window.showCompletions result).result = window.result ∧
      (window.showCompletions result).controller = window.controller := by
  unfold showCompletions
  split
  · exact ⟨⟨⟨rfl, rfl⟩, rfl, rfl, rfl⟩, rfl, rfl⟩
  · split <;> exact ⟨⟨⟨rfl, rfl⟩, rfl, rfl, rfl⟩, rfl, rfl⟩

theorem refreshCompletions_spec (attached : window.attached = true) :
    ∃ next, window.refreshCompletions = .ok next ∧ window.Alike next ∧
      next.controller = window.controller ∧
      ∀ result ∈ next.result, result.FoundIn window.text := by
  rcases completed : window.source.complete window.text (some window.document.cursorIndex)
    (some window.activeList.limit) with ⟨result, source⟩
  obtain ⟨alike, remembered, controller⟩ :=
    showCompletions_spec { window with source, result } result
  refine ⟨_, ?_, ⟨⟨alike.attached, alike.validator⟩, alike.config, alike.document, alike.tooltip⟩,
    controller, fun found isResult => ?_⟩
  · rw [refreshCompletions, if_neg (by simp [attached]), completed]
  · apply CompletionSource.foundIn_of_complete
    rw [completed]
    exact remembered.symm.trans isResult

theorem edit_spec (attached : window.attached = true) (document : Document) :
    ∃ next, window.edit document = .ok next ∧ window.Edited next ∧ next.document = document := by
  obtain ⟨middle, validated, alike, -, -, controller, -⟩ :=
    validate_spec { window with document, tooltip := window.tooltip.hide }
  obtain ⟨next, refreshed, alikeNext, controllerNext, found⟩ :=
    refreshCompletions_spec (alike.attached.trans attached)
  have sameDocument : next.document = document := alikeNext.document.trans alike.document
  have textAfter : next.text = document.text := congrArg Document.text sameDocument
  have textBefore : middle.text = document.text := congrArg Document.text alike.document
  refine ⟨next, ?_, ⟨⟨?_, ?_⟩, alikeNext.config.trans alike.config, ?_, ?_, ?_⟩, sameDocument⟩
  · rw [edit, textChanged, validated]
    exact refreshed
  · exact alikeNext.attached.trans alike.attached
  · exact alikeNext.validator.trans alike.validator
  · rw [controllerNext, controller, textAfter]
    rfl
  · rw [alikeNext.tooltip, alike.tooltip]
    rfl
  · rw [textAfter, ← textBefore]
    exact found

theorem performEdit_spec (attached : window.attached = true) (edit : Edit) :
    ∃ next, window.performEdit edit = .ok next ∧ window.Edited next ∧
      next.document = window.document.replace edit := by
  obtain ⟨changed, performed, edited, document⟩ :=
    edit_spec attached (window.document.perform edit)
  refine ⟨{ changed with document := changed.document.moveBehind window.document edit }, ?_,
    ⟨⟨edited.attached, edited.validator⟩, edited.config, edited.controller, edited.hidden,
      edited.found⟩, by rw [document]; rfl⟩
  rw [performEdit, performed]
  rfl

theorem Rested.refl (window : NoteWindow) : window.Rested window where
  attached := rfl
  validator := rfl
  config := rfl
  controller := rfl
  text := rfl
  tooltip := fun _ => .inl rfl
  result := .inl ⟨rfl, id⟩

/-- A quick fix that is not applied changes nothing; one that is applied is an edit. -/
theorem applyQuickFix_spec (attached : window.attached = true) (entry : DiagnosticEntry)
    (given : Value) :
    ∃ applied next, window.applyQuickFix entry given = .ok (applied, next) ∧
      (window.Rested next ∨ window.Edited next) := by
  rw [applyQuickFix, if_neg (by simp [attached])]
  cases Edit.ofFix? window.text entry given with
  | none => exact ⟨false, window, rfl, .inl (.refl window)⟩
  | some edit =>
      obtain ⟨next, performed, edited, -⟩ := performEdit_spec attached edit
      refine ⟨true, { next with tooltip := next.tooltip.hide }, ?_, .inr ⟨⟨edited.attached,
        edited.validator⟩, edited.config, edited.controller, rfl, edited.found⟩⟩
      simp only [performed]
      rfl

/-- How a window takes a completion: it changes nothing, or puts the completion in at the
anchor of the result that it remembers. -/
inductive Takes (window : NoteWindow) (candidate : Option Candidate) : Bool → NoteWindow → Prop
  | refused : window.Takes candidate false window
  | accepted {next : NoteWindow} (result : CompletionResult) (item : Candidate)
      (remembered : window.result = some result) (given : candidate = some item)
      (replaced : next.document = window.document.replace
        ⟨result.anchorStart, result.anchorStop, result.applyText item⟩)
      (completed : window.Completed next) : window.Takes candidate true next

theorem not_listShown_hideCompletions (window : NoteWindow) :
    ¬window.hideCompletions.ListShown := by
  rintro (visible | visible) <;> exact Bool.false_ne_true visible

theorem applyCompletion_spec (attached : window.attached = true) (candidate : Option Candidate) :
    ∃ applied next, window.applyCompletion candidate = .ok (applied, next) ∧
      window.Takes candidate applied next := by
  unfold applyCompletion
  split
  · rename_i result item remembered
    rw [if_neg (by simp [attached])]
    split
    · exact ⟨false, window, rfl, .refused⟩
    · let edit : Edit := ⟨result.anchorStart, result.anchorStop, result.applyText item⟩
      let edited := { window with document := window.document.replace edit }.hideCompletions
      obtain ⟨next, validated, alike, sameResult, shown, controller, told⟩ := validate_spec
        { edited with events := edited.events ++ [.accepted edit.replacement] }
      have sameText : next.text = edited.text := congrArg Document.text alike.document
      refine ⟨true, next, map_of_ok validated,
        .accepted result item remembered rfl alike.document ⟨⟨alike.attached, alike.validator⟩,
          alike.config, ?_, alike.tooltip, sameResult, ?_, edit.replacement, told _ (by simp)⟩⟩
      · rw [controller, sameText]
        rfl
      · exact fun inSight => not_listShown_hideCompletions _ (shown inSight)
  · exact ⟨false, window, rfl, .refused⟩

theorem Takes.rested_or_completed {candidate : Option Candidate} {applied : Bool}
    (takes : window.Takes candidate applied next) : window.Rested next ∨ window.Completed next := by
  cases takes with
  | refused => exact .inl (.refl window)
  | accepted _ _ _ _ _ completed => exact .inr completed

theorem moveSelection_visible (list : CompletionList) (delta : Int) :
    (list.moveSelection delta).visible = list.visible := by
  unfold CompletionList.moveSelection
  split <;> rfl

theorem rested_moveSelection (window : NoteWindow) (delta : Int) :
    window.Rested (window.updateActiveList (·.moveSelection delta)) := by
  unfold updateActiveList
  split
  · refine ⟨⟨rfl, rfl⟩, rfl, rfl, rfl, fun _ => .inl rfl, .inl ⟨rfl, ?_⟩⟩
    exact Or.imp_left (moveSelection_visible window.popup delta).symm.trans
  · exact ⟨⟨rfl, rfl⟩, rfl, rfl, rfl, fun _ => .inl rfl, .inl ⟨rfl, id⟩⟩

theorem rested_closeTooltip (window : NoteWindow) : window.Rested window.closeTooltip :=
  ⟨⟨rfl, rfl⟩, rfl, rfl, rfl, fun visible => absurd visible Bool.false_ne_true, .inl ⟨rfl, id⟩⟩

theorem pressKey_spec (attached : window.attached = true) (key : EditorKey) :
    ∃ answer next, window.pressKey key = .ok (answer, next) ∧
      (window.Rested next ∨ window.Completed next) := by
  unfold pressKey
  split
  · cases key with
    | down => exact ⟨false, _, rfl, .inl (rested_moveSelection window _)⟩
    | up => exact ⟨false, _, rfl, .inl (rested_moveSelection window _)⟩
    | accept =>
        cases window.activeList.current with
        | none => exact ⟨true, window, rfl, .inl (.refl window)⟩
        | some candidate =>
            obtain ⟨applied, next, performed, takes⟩ := applyCompletion_spec attached candidate
            exact ⟨false, next, map_of_ok performed, takes.rested_or_completed⟩
    | escape =>
        exact ⟨false, _, rfl, .inl ⟨⟨rfl, rfl⟩, rfl, rfl, rfl, fun _ => .inl rfl,
          .inl ⟨rfl, fun inSight => absurd inSight (not_listShown_hideCompletions window)⟩⟩⟩
    | other => exact ⟨true, window, rfl, .inl (.refl window)⟩
  · split
    · exact ⟨false, _, rfl, .inl (rested_closeTooltip window)⟩
    · exact ⟨true, window, rfl, .inl (.refl window)⟩

/-- The tooltip that the timer asks for lists diagnostics that there are. -/
theorem receive_tooltip_spec (attached : window.attached = true) (diagnostics : List Diagnostic) :
    ∃ tooltip, window.receive (.tooltip diagnostics) = .ok { window with tooltip } ∧
      (tooltip = window.tooltip ∨ tooltip.Lists diagnostics) := by
  unfold receive
  dsimp only
  split
  · exact ⟨window.tooltip, rfl, .inl rfl⟩
  · rw [if_neg (by simp [attached])]
    refine ⟨_, rfl, .inr (Tooltip.lists_showDiagnostics _ fun diagnostic member => ?_)⟩
    split at member
    · exact member
    · exact Diagnostic.mem_of_mem_atPosition member

theorem fire_spec (attached : window.attached = true) :
    ∃ next, window.fire = .ok next ∧ window.Rested next := by
  rw [fire, Controller.fire]
  split
  · split
    · exact ⟨_, rfl, ⟨⟨rfl, rfl⟩, rfl, rfl, rfl, fun _ => .inl rfl,
        .inl ⟨rfl, id⟩⟩⟩
    · have attachedStill :
        { window with controller := window.controller.cancel }.attached = true := attached
      obtain ⟨tooltip, received, shown⟩ :=
        receive_tooltip_spec attachedStill window.controller.diagnostics
      refine ⟨{ window with controller := window.controller.cancel, tooltip }, ?_,
        ⟨⟨rfl, rfl⟩, rfl, rfl, rfl, fun _ => ?_, .inl ⟨rfl, id⟩⟩⟩
      · simp only [afterController, List.foldlM_cons, received]
        rfl
      · exact shown
  · exact ⟨_, rfl, .refl window⟩

theorem clickFix_spec (attached : window.attached = true) (button : Int) :
    ∃ next, window.clickFix button = .ok next ∧ (window.Rested next ∨ window.Edited next) := by
  unfold clickFix
  split
  · exact ⟨window, rfl, .inl (.refl window)⟩
  · split
    · exact ⟨window, rfl, .inl (.refl window)⟩
    · rename_i row fix _
      obtain ⟨applied, next, performed, change⟩ := applyQuickFix_spec attached row.entry
        (.text (String.ofList fix.replacement))
      exact ⟨next, map_of_ok performed, change⟩

theorem updateSettings_spec (window : NoteWindow) (config : MarkerConfig) :
    ∃ next, window.updateSettings config = .ok next ∧ next.config = config ∧
      window.Configured next :=
  ⟨_, rfl, rfl, ⟨rfl, rfl⟩, rfl, rfl, rfl, rfl, id⟩

theorem exists_perform (attached : window.attached = true) (stays : action ≠ .detach) :
    ∃ answer next, window.perform action = .ok (answer, next) ∧ window.Change action next := by
  cases action with
  | setText text =>
      obtain ⟨next, performed, edited, -⟩ := edit_spec attached (Document.setText text)
      exact ⟨.done, next, map_of_ok performed, .edited rfl edited⟩
  | insertText text =>
      obtain ⟨next, performed, edited, -⟩ := edit_spec attached (window.document.insert text)
      exact ⟨.done, next, map_of_ok performed, .edited rfl edited⟩
  | edit document =>
      obtain ⟨next, performed, edited, -⟩ := edit_spec attached document
      exact ⟨.done, next, map_of_ok performed, .edited rfl edited⟩
  | moveCursor position =>
      refine ⟨.done, _, rfl, .rested rfl ⟨⟨rfl, rfl⟩, rfl, rfl, ?_,
        fun _ => .inl rfl, .inl ⟨rfl, id⟩⟩⟩
      simp only [moveCursor, text, Document.moveCursor]
      split <;> rfl
  | pressKey key =>
      obtain ⟨answer, next, performed, change⟩ := pressKey_spec attached key
      exact ⟨.leftToOthers answer, next, map_of_ok performed,
        change.elim (.rested rfl) (.completed rfl)⟩
  | refreshCompletions =>
      obtain ⟨next, performed, alike, controller, found⟩ := refreshCompletions_spec attached
      have sameText : next.text = window.text := congrArg Document.text alike.document
      exact ⟨.completions next.result, next, map_of_ok performed,
        .rested rfl ⟨alike.toContinues, alike.config, by rw [controller], sameText,
          fun _ => .inl alike.tooltip, .inr (by rwa [sameText])⟩⟩
  | applyCompletion candidate =>
      obtain ⟨applied, next, performed, takes⟩ := applyCompletion_spec attached candidate
      exact ⟨.applied applied, next, map_of_ok performed,
        takes.rested_or_completed.elim (.rested rfl) (.completed rfl)⟩
  | applyQuickFix entry replacement =>
      obtain ⟨applied, next, performed, change⟩ := applyQuickFix_spec attached entry replacement
      exact ⟨.applied applied, next, map_of_ok performed,
        change.elim (.rested rfl) (.edited rfl)⟩
  | timeout =>
      obtain ⟨next, performed, rested⟩ := fire_spec attached
      exact ⟨.done, next, map_of_ok performed, .rested rfl rested⟩
  | clickFix button =>
      obtain ⟨next, performed, change⟩ := clickFix_spec attached button
      exact ⟨.done, next, map_of_ok performed,
        change.elim (.rested rfl) (.edited rfl)⟩
  | closeTooltip => exact ⟨.done, _, rfl, .rested rfl (rested_closeTooltip window)⟩
  | blur | hideEditor =>
      exact ⟨.done, _, rfl, .rested rfl ⟨⟨rfl, rfl⟩, rfl, rfl, rfl,
        fun _ => .inl rfl, .inl ⟨rfl, id⟩⟩⟩
  | updateSettings config =>
      obtain ⟨next, performed, given, configured⟩ := updateSettings_spec window config
      exact ⟨.done, next, map_of_ok performed,
        .configured (by rw [given]) configured⟩
  | detach => exact absurd rfl stays

/-- What the listeners were told before does not matter. -/
theorem Change.of_events {events : List WindowEvent}
    (change : { window with events }.Change action next) : window.Change action next := by
  cases change with
  | edited config edited =>
      exact .edited config ⟨⟨edited.attached, edited.validator⟩, edited.config, edited.controller,
        edited.hidden, edited.found⟩
  | completed config completed =>
      exact .completed config ⟨⟨completed.attached, completed.validator⟩, completed.config,
        completed.controller, completed.tooltip, completed.result, completed.hidden,
        completed.told⟩
  | configured given configured =>
      exact .configured given ⟨⟨configured.attached, configured.validator⟩, configured.controller,
        configured.text, configured.tooltip, configured.result, configured.shown⟩
  | rested config rested =>
      exact .rested config ⟨⟨rested.attached, rested.validator⟩, rested.config, rested.controller,
        rested.text, rested.tooltip, rested.result⟩

theorem Change.continues (change : window.Change action next) : window.Continues next := by
  cases change with
  | edited _ edited => exact edited.toContinues
  | completed _ completed => exact completed.toContinues
  | configured _ configured => exact configured.toContinues
  | rested _ rested => exact rested.toContinues

theorem Change.config (change : window.Change action next) :
    next.config = settingsAfter window.config action := by
  cases change with
  | edited config edited => rw [edited.config, config]
  | completed config completed => rw [completed.config, config]
  | configured given _ => rw [given, settingsAfter]
  | rested config rested => rw [rested.config, config]

/-- An action that does not detach the surface does not fail, and does what `Change` says. -/
theorem exists_step (attached : window.attached = true) (stays : action ≠ .detach) :
    ∃ answer next, window.step action = .ok (answer, next) ∧ window.Change action next := by
  have attachedNow : { window with events := [] }.attached = true := attached
  obtain ⟨answer, next, performed, change⟩ := exists_perform attachedNow stays
  exact ⟨answer, next, performed, change.of_events⟩

end NoteWindow

end InlineMarkers
