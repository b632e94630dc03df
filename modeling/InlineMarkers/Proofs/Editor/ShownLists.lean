import InlineMarkers.Proofs.Editor.WindowRuns
import InlineMarkers.Proofs.Validation.LocalFix

/-!
# Which lists of completions are in sight

Completions are shown in the list that the settings ask for.  No action brings the
other list into sight, and whatever hides one of the lists because there is nothing
to complete any more hides both.  Other settings hide no list, though.  So a list
that is in sight when they ask for the other one stays in sight, and the other one
can come into sight beside it.
-/

namespace InlineMarkers.NoteWindow

open Calendar Validation

variable {start window middle moment next : NoteWindow} {actions after : List WindowAction}
  {action : WindowAction} {answer : WindowAnswer} {view : CompletionView} {other : MarkerConfig}

/-- The list of a view is in sight. -/
def Shows (window : NoteWindow) : CompletionView → Prop
  | .popup => window.popup.visible = true
  | .panel => window.panel.visible = true

theorem listShown_of_shows (shows : window.Shows view) : window.ListShown := by
  cases view with
  | popup => exact .inl shows
  | panel => exact .inr shows

/-- The settings and the lists are those of the other window. -/
structure SameLists (window next : NoteWindow) : Prop where
  config : next.config = window.config
  popup : next.popup = window.popup
  panel : next.panel = window.panel

theorem SameLists.trans (first : window.SameLists middle) (second : middle.SameLists next) :
    window.SameLists next :=
  ⟨second.config.trans first.config, second.popup.trans first.popup,
    second.panel.trans first.panel⟩

theorem SameLists.shows (same : window.SameLists next) (view : CompletionView) :
    next.Shows view ↔ window.Shows view := by
  cases view with
  | popup => rw [Shows, same.popup, Shows]
  | panel => rw [Shows, same.panel, Shows]

theorem SameLists.listShown (same : window.SameLists next) :
    next.ListShown ↔ window.ListShown := by
  rw [ListShown, same.popup, same.panel, ListShown]

/-- Both lists are out of sight, or the one that is not active is left as it was. -/
structure Spares (window next : NoteWindow) : Prop where
  config : next.config = window.config
  lists : ¬next.ListShown ∨
    ∀ view, window.config.completionView ≠ view → (next.Shows view ↔ window.Shows view)

theorem SameLists.spares (same : window.SameLists next) : window.Spares next :=
  ⟨same.config, .inr fun view _ => same.shows view⟩

theorem Spares.refl (window : NoteWindow) : window.Spares window :=
  SameLists.spares ⟨rfl, rfl, rfl⟩

theorem SameLists.trans_spares (same : window.SameLists middle) (spares : middle.Spares next) :
    window.Spares next where
  config := spares.config.trans same.config
  lists := spares.lists.imp_right fun left view inactive =>
    (left view (by rwa [same.config])).trans (same.shows view)

theorem Spares.trans_same (spares : window.Spares middle) (same : middle.SameLists next) :
    window.Spares next where
  config := same.config.trans spares.config
  lists := spares.lists.imp (fun hidden shown => hidden (same.listShown.mp shown))
    fun left view inactive => (same.shows view).trans (left view inactive)

/-! ## The parts of an action -/

theorem sameLists_of_receive {signal : ControllerSignal}
    (received : window.receive signal = .ok next) : window.SameLists next := by
  cases signal with
  | changed diagnostics =>
      rw [← Except.ok.inj received]
      exact ⟨rfl, rfl, rfl⟩
  | tooltip diagnostics =>
      rw [receive] at received
      split at received
      · rw [← Except.ok.inj received]
        exact ⟨rfl, rfl, rfl⟩
      · split at received
        · cases received
        · rw [← Except.ok.inj received]
          exact ⟨rfl, rfl, rfl⟩

/-- Whatever the controller says, the lists stay. -/
theorem sameLists_of_foldlM_receive {signals : List ControllerSignal}
    (received : signals.foldlM receive window = .ok next) : window.SameLists next := by
  induction signals generalizing window with
  | nil =>
      rw [← Except.ok.inj received]
      exact ⟨rfl, rfl, rfl⟩
  | cons signal signals ih =>
      obtain ⟨middle, first, others⟩ := exists_of_bind_ok (List.foldlM_cons.symm.trans received)
      exact (sameLists_of_receive first).trans (ih others)

theorem sameLists_of_afterController {outcome : Controller × List ControllerSignal}
    (done : window.afterController outcome = .ok next) : window.SameLists next := by
  have told : window.SameLists { window with controller := outcome.1 } := ⟨rfl, rfl, rfl⟩
  exact told.trans (sameLists_of_foldlM_receive done)

theorem sameLists_of_validate (validated : window.validate = .ok next) : window.SameLists next :=
  sameLists_of_afterController validated

theorem spares_showCompletions (window : NoteWindow) (result : Option CompletionResult) :
    window.Spares (window.showCompletions result) := by
  cases result with
  | none => exact ⟨rfl, .inl (not_listShown_hideCompletions window)⟩
  | some result =>
      rw [showCompletions]
      split
      · rename_i active
        refine ⟨rfl, .inr fun view inactive => ?_⟩
        cases view with
        | popup => exact absurd active inactive
        | panel => exact Iff.rfl
      · rename_i active
        refine ⟨rfl, .inr fun view inactive => ?_⟩
        cases view with
        | popup => exact Iff.rfl
        | panel => exact absurd active inactive

theorem spares_of_refreshCompletions (refreshed : window.refreshCompletions = .ok next) :
    window.Spares next := by
  rcases completed : window.source.complete window.text (some window.document.cursorIndex)
    (some window.activeList.limit) with ⟨result, source⟩
  rw [refreshCompletions, completed] at refreshed
  split at refreshed
  · cases refreshed
  · rw [← Except.ok.inj refreshed]
    have remembered : window.SameLists { window with source, result } := ⟨rfl, rfl, rfl⟩
    exact remembered.trans_spares (spares_showCompletions _ result)

theorem spares_of_edit {document : Document} (edited : window.edit document = .ok next) :
    window.Spares next := by
  obtain ⟨validated, validates, refreshes⟩ := exists_of_bind_ok edited
  have typed : window.SameLists { window with document, tooltip := window.tooltip.hide } :=
    ⟨rfl, rfl, rfl⟩
  exact (typed.trans (sameLists_of_validate validates)).trans_spares
    (spares_of_refreshCompletions refreshes)

theorem spares_of_applyQuickFix {entry : DiagnosticEntry} {given : Value} {applied : Bool}
    (fixed : window.applyQuickFix entry given = .ok (applied, next)) : window.Spares next := by
  unfold applyQuickFix at fixed
  split at fixed
  · obtain ⟨-, rfl⟩ := Prod.mk.inj (Except.ok.inj fixed)
    exact .refl window
  · split at fixed
    · obtain ⟨-, rfl⟩ := Prod.mk.inj (Except.ok.inj fixed)
      exact .refl window
    · obtain ⟨edited, performed, isNext⟩ := exists_of_bind_ok fixed
      obtain ⟨changed, edits, isEdited⟩ := exists_of_bind_ok performed
      obtain ⟨-, rfl⟩ := Prod.mk.inj (Except.ok.inj isNext)
      obtain rfl := Except.ok.inj isEdited
      exact (spares_of_edit edits).trans_same ⟨rfl, rfl, rfl⟩

/-- A completion that is put in hides the lists. -/
theorem spares_of_applyCompletion {candidate : Option Candidate} {applied : Bool}
    (performed : window.applyCompletion candidate = .ok (applied, next)) : window.Spares next := by
  unfold applyCompletion at performed
  split at performed
  · split at performed
    · cases performed
    · split at performed
      · obtain ⟨-, rfl⟩ := Prod.mk.inj (Except.ok.inj performed)
        exact .refl window
      · obtain ⟨validated, validates, isNext⟩ := exists_of_map_ok performed
        obtain ⟨-, rfl⟩ := Prod.mk.inj isNext
        have same := sameLists_of_validate validates
        exact ⟨same.config,
          .inl fun shown => not_listShown_hideCompletions window (same.listShown.mp shown)⟩
  · obtain ⟨-, rfl⟩ := Prod.mk.inj (Except.ok.inj performed)
    exact .refl window

theorem spares_moveSelection (window : NoteWindow) (delta : Int) :
    window.Spares (window.updateActiveList (·.moveSelection delta)) := by
  refine ⟨?_, .inr fun view _ => ?_⟩
  · unfold updateActiveList
    split <;> rfl
  · unfold updateActiveList
    split
    · cases view with
      | popup => rw [Shows, moveSelection_visible, Shows]
      | panel => exact Iff.rfl
    · cases view with
      | popup => exact Iff.rfl
      | panel => exact Iff.rfl

theorem spares_of_pressKey {key : EditorKey} {left : Bool}
    (pressed : window.pressKey key = .ok (left, next)) : window.Spares next := by
  unfold pressKey at pressed
  split at pressed
  · cases key with
    | down | up =>
        obtain ⟨-, rfl⟩ := Prod.mk.inj (Except.ok.inj pressed)
        exact spares_moveSelection window _
    | accept =>
        dsimp only at pressed
        split at pressed
        · obtain ⟨⟨applied, completed⟩, performed, isNext⟩ := exists_of_map_ok pressed
          obtain ⟨-, rfl⟩ := Prod.mk.inj isNext
          exact spares_of_applyCompletion performed
        · obtain ⟨-, rfl⟩ := Prod.mk.inj (Except.ok.inj pressed)
          exact .refl window
    | escape =>
        obtain ⟨-, rfl⟩ := Prod.mk.inj (Except.ok.inj pressed)
        exact ⟨rfl, .inl (not_listShown_hideCompletions window)⟩
    | other =>
        obtain ⟨-, rfl⟩ := Prod.mk.inj (Except.ok.inj pressed)
        exact .refl window
  · split at pressed
    all_goals
      obtain ⟨-, rfl⟩ := Prod.mk.inj (Except.ok.inj pressed)
      exact SameLists.spares ⟨rfl, rfl, rfl⟩

theorem spares_of_clickFix {button : Int} (clicked : window.clickFix button = .ok next) :
    window.Spares next := by
  unfold clickFix at clicked
  split at clicked
  · rw [← Except.ok.inj clicked]
    exact .refl window
  · split at clicked
    · rw [← Except.ok.inj clicked]
      exact .refl window
    · obtain ⟨⟨applied, fixed⟩, performed, rfl⟩ := exists_of_map_ok clicked
      exact spares_of_applyQuickFix performed

/-- Other settings leave both lists as they are. -/
theorem shows_of_updateSettings (given : window.updateSettings other = .ok next) :
    next.config = other ∧ ∀ view, next.Shows view ↔ window.Shows view := by
  have same := sameLists_of_afterController given
  exact ⟨same.config, fun view => (same.shows view).trans (by cases view <;> rfl)⟩

/-! ## Whole actions -/

theorem spares_of_perform (performed : window.perform action = .ok (answer, next))
    (keeps : ∀ given, action ≠ .updateSettings given) : window.Spares next := by
  cases action with
  | setText | insertText | edit =>
      obtain ⟨edited, edits, isNext⟩ := exists_of_map_ok performed
      obtain ⟨-, rfl⟩ := Prod.mk.inj isNext
      exact spares_of_edit edits
  | pressKey key =>
      obtain ⟨⟨left, pressed⟩, presses, isNext⟩ := exists_of_map_ok performed
      obtain ⟨-, rfl⟩ := Prod.mk.inj isNext
      exact spares_of_pressKey presses
  | refreshCompletions =>
      obtain ⟨refreshed, refreshes, isNext⟩ := exists_of_map_ok performed
      obtain ⟨-, rfl⟩ := Prod.mk.inj isNext
      exact spares_of_refreshCompletions refreshes
  | applyCompletion candidate =>
      obtain ⟨⟨applied, completed⟩, completes, isNext⟩ := exists_of_map_ok performed
      obtain ⟨-, rfl⟩ := Prod.mk.inj isNext
      exact spares_of_applyCompletion completes
  | applyQuickFix entry replacement =>
      obtain ⟨⟨applied, fixed⟩, fixes, isNext⟩ := exists_of_map_ok performed
      obtain ⟨-, rfl⟩ := Prod.mk.inj isNext
      exact spares_of_applyQuickFix fixes
  | timeout =>
      obtain ⟨fired, fires, isNext⟩ := exists_of_map_ok performed
      obtain ⟨-, rfl⟩ := Prod.mk.inj isNext
      exact (sameLists_of_afterController fires).spares
  | clickFix button =>
      obtain ⟨clicked, clicks, isNext⟩ := exists_of_map_ok performed
      obtain ⟨-, rfl⟩ := Prod.mk.inj isNext
      exact spares_of_clickFix clicks
  | moveCursor | closeTooltip | blur | hideEditor | detach =>
      obtain ⟨-, rfl⟩ := Prod.mk.inj (Except.ok.inj performed)
      exact SameLists.spares ⟨rfl, rfl, rfl⟩
  | updateSettings given => exact absurd rfl (keeps given)

/-- After an action, a list that is not active is in sight if it was before and some list still
is. -/
theorem shows_of_step (done : window.step action = .ok (answer, next))
    (inactive : next.config.completionView ≠ view) :
    next.Shows view ↔ window.Shows view ∧ next.ListShown := by
  have silent : window.SameLists { window with events := [] } := ⟨rfl, rfl, rfl⟩
  by_cases configured : ∃ given, action = .updateSettings given
  · -- nothing is hidden, so the list stays in sight if it was
    obtain ⟨given, rfl⟩ := configured
    rw [step, perform] at done
    obtain ⟨updated, updates, isNext⟩ := exists_of_map_ok done
    obtain ⟨-, rfl⟩ := Prod.mk.inj isNext
    obtain ⟨-, shows⟩ := shows_of_updateSettings updates
    rw [← silent.shows, ← shows]
    exact ⟨fun shown => ⟨shown, listShown_of_shows shown⟩, And.left⟩
  · have spares := silent.trans_spares
      (spares_of_perform done fun given isGiven => configured ⟨given, isGiven⟩)
    rw [spares.config] at inactive
    rcases spares.lists with hidden | left
    · exact ⟨fun shown => absurd (listShown_of_shows shown) hidden,
        fun shown => absurd shown.2 hidden⟩
    · rw [← left view inactive]
      exact ⟨fun shown => ⟨shown, listShown_of_shows shown⟩, And.left⟩

/-! ## Runs -/

/-- The list of a view was active and in sight when settings were given that ask for the other
list.  Since then no settings asked for it again, and some list was always in sight. -/
structure LeftInSight (start : NoteWindow) (actions : List WindowAction) (window : NoteWindow)
    (view : CompletionView) (moment : NoteWindow) (other : MarkerConfig)
    (after : List WindowAction) : Prop extends
    start.CameBy actions window moment (.updateSettings other :: after) where
  shown : moment.Shows view
  active : moment.config.completionView = view
  elsewhere : ∀ given, .updateSettings given ∈ .updateSettings other :: after →
    given.completionView ≠ view
  inSight : ∀ between rest, moment.CameBy (.updateSettings other :: after) window between rest →
    between.ListShown

theorem LeftInSight.here (ran : start.run actions = .ok window) (shown : window.Shows view)
    (active : window.config.completionView = view)
    (done : window.step (.updateSettings other) = .ok (answer, next))
    (elsewhere : other.completionView ≠ view) (inSight : next.ListShown) :
    start.LeftInSight (actions ++ [.updateSettings other]) next view window other [] where
  toCameBy := (CameBy.here ran).concat done
  shown := shown
  active := active
  elsewhere := by
    intro given isGiven
    obtain rfl := WindowAction.updateSettings.inj (List.mem_singleton.mp isGiven)
    exact elsewhere
  inSight := by
    intro between rest cameBy
    have ranNothing : window.run [] = .ok window := rfl
    rw [← List.nil_append [WindowAction.updateSettings other]] at cameBy
    rcases cameBy.eq_or_concat ranNothing with ⟨-, rfl⟩ | ⟨earlier, -, cameBy⟩
    · exact inSight
    · obtain ⟨before, whole, ran⟩ := cameBy.before
      obtain ⟨rfl, -⟩ := List.append_eq_nil_iff.mp whole.symm
      obtain rfl : window = between := Except.ok.inj ran
      exact listShown_of_shows shown

theorem LeftInSight.concat (left : start.LeftInSight actions window view moment other after)
    (done : window.step action = .ok (answer, next))
    (elsewhere : ∀ given, action = .updateSettings given → given.completionView ≠ view)
    (inSight : next.ListShown) :
    start.LeftInSight (actions ++ [action]) next view moment other (after ++ [action]) where
  toCameBy := left.toCameBy.concat done
  shown := left.shown
  active := left.active
  elsewhere := by
    intro given isGiven
    rw [← List.cons_append, List.mem_append] at isGiven
    rcases isGiven with earlier | last
    · exact left.elsewhere given earlier
    · exact elsewhere given (List.mem_singleton.mp last).symm
  inSight := by
    intro between rest cameBy
    rcases CameBy.eq_or_concat cameBy left.since with ⟨-, rfl⟩ | ⟨earlier, -, cameBy⟩
    · exact inSight
    · exact left.inSight between earlier cameBy

/-- The last action either gave the settings, or was done with the list left in sight already and
did not make it active. -/
theorem LeftInSight.eq_or_concat
    (left : start.LeftInSight (actions ++ [action]) next view moment other after)
    (ran : start.run actions = .ok window) (done : window.step action = .ok (answer, next)) :
    (action = .updateSettings other ∧ window.Shows view) ∨
      (∃ earlier, start.LeftInSight actions window view moment other earlier) ∧
        ∀ given, action = .updateSettings given → given.completionView ≠ view := by
  rcases left.toCameBy.eq_or_concat ran with ⟨none, -⟩ | ⟨earlier, whole, cameBy⟩
  · cases none
  · cases earlier with
    | nil =>
        obtain ⟨isLast, -⟩ := List.cons.inj whole
        obtain rfl : moment = window := Except.ok.inj cameBy.since
        exact .inl ⟨isLast.symm, left.shown⟩
    | cons first earlier =>
        obtain ⟨rfl, rfl⟩ := List.cons.inj whole
        refine .inr ⟨⟨earlier, cameBy, left.shown, left.active, fun given isGiven => ?_,
          fun between rest passed => ?_⟩, fun given isGiven => ?_⟩
        · exact left.elsewhere given (List.mem_append_left [action] isGiven)
        · exact left.inSight between _ (passed.concat done)
        · exact left.elsewhere given (by simp [isGiven])

/-- An action makes a list active only by settings that ask for it. -/
theorem settingsAfter_view_ne {config : MarkerConfig} (inactive : config.completionView ≠ view)
    (elsewhere : ∀ given, action = .updateSettings given → given.completionView ≠ view) :
    (settingsAfter config action).completionView ≠ view := by
  cases action with
  | updateSettings given => exact elsewhere given rfl
  | _ => exact inactive

/-- No list is in sight when a window opens. -/
theorem leftInSight_opened (config : MarkerConfig) (today : Date) (view : CompletionView) :
    (opened config today).Shows view ∧ (opened config today).config.completionView ≠ view ↔
      ∃ moment other after,
        (opened config today).LeftInSight [] (opened config today) view moment other after := by
  constructor
  · rintro ⟨shown, -⟩
    cases view <;> cases shown
  · rintro ⟨moment, other, after, left⟩
    obtain ⟨before, whole, -⟩ := left.before
    cases (List.append_eq_nil_iff.mp whole.symm).2

/-- If before an action the lists in sight that are not active are those that were left in sight,
so they are after it. -/
theorem leftInSight_concat_iff (ran : start.run actions = .ok window)
    (done : window.step action = .ok (answer, next)) (change : window.Change action next)
    (before : ∀ view, window.Shows view ∧ window.config.completionView ≠ view ↔
      ∃ moment other after, start.LeftInSight actions window view moment other after)
    (view : CompletionView) :
    next.Shows view ∧ next.config.completionView ≠ view ↔ ∃ moment other after,
      start.LeftInSight (actions ++ [action]) next view moment other after := by
  have config := change.config
  constructor
  · rintro ⟨shown, inactive⟩
    obtain ⟨shownBefore, inSight⟩ := (shows_of_step done inactive).mp shown
    have elsewhere : ∀ given, action = .updateSettings given → given.completionView ≠ view := by
      rintro given rfl
      rwa [config] at inactive
    by_cases active : window.config.completionView = view
    · -- only other settings make a list inactive
      cases action with
      | updateSettings given =>
          exact ⟨window, given, [], .here ran shownBefore active done (elsewhere given rfl) inSight⟩
      | _ => exact absurd active (by rwa [config] at inactive)
    · obtain ⟨moment, other, after, left⟩ := (before view).mp ⟨shownBefore, active⟩
      exact ⟨moment, other, _, left.concat done elsewhere inSight⟩
  · rintro ⟨moment, other, after, left⟩
    have inSight : next.ListShown := left.inSight next [] (.here left.since)
    suffices window.Shows view ∧ next.config.completionView ≠ view from
      ⟨(shows_of_step done this.2).mpr ⟨this.1, inSight⟩, this.2⟩
    rw [config]
    rcases left.eq_or_concat ran done with ⟨rfl, shown⟩ | ⟨⟨earlier, leftBefore⟩, elsewhere⟩
    · exact ⟨shown, left.elsewhere other List.mem_cons_self⟩
    · obtain ⟨shown, inactive⟩ := (before view).mpr ⟨moment, other, earlier, leftBefore⟩
      exact ⟨shown, settingsAfter_view_ne inactive elsewhere⟩

/-- Whatever is done in a window, a list that is in sight is the active one, unless it was left in
sight: it was active and in sight when settings were given that ask for the other list, and since
then no settings asked for it again and the lists were never hidden. -/
theorem inactive_shown_run (config : MarkerConfig) (today : Date) (actions : List WindowAction)
    (stays : .detach ∉ actions) :
    ∃ window, (opened config today).run actions = .ok window ∧
      ∀ view, window.Shows view ∧ window.config.completionView ≠ view ↔
        ∃ moment other after,
          (opened config today).CameBy actions window moment (.updateSettings other :: after) ∧
          moment.Shows view ∧ moment.config.completionView = view ∧
          (∀ given, .updateSettings given ∈ .updateSettings other :: after →
            given.completionView ≠ view) ∧
          ∀ between rest, moment.CameBy (.updateSettings other :: after) window between rest →
            between.ListShown := by
  have attached : (opened config today).attached = true := rfl
  obtain ⟨window, ran, -, leftInSight⟩ := exists_run
    (P := fun actions window => ∀ view,
      window.Shows view ∧ window.config.completionView ≠ view ↔ ∃ moment other after,
        (opened config today).LeftInSight actions window view moment other after)
    attached (leftInSight_opened config today)
    (fun ran done change => leftInSight_concat_iff ran done change) stays
  refine ⟨window, ran, fun view => (leftInSight view).trans ⟨?_, ?_⟩⟩
  · rintro ⟨moment, other, after, left⟩
    exact ⟨moment, other, after, left.toCameBy, left.shown, left.active, left.elsewhere,
      left.inSight⟩
  · rintro ⟨moment, other, after, cameBy, shown, active, elsewhere, inSight⟩
    exact ⟨moment, other, after, cameBy, shown, active, elsewhere, inSight⟩

/-- While no other settings are given, only the active list is in sight. -/
theorem inactive_shown_run_of_typed_priority :
    let actions : List WindowAction :=
      [.insertText "#h".toList, .pressKey .down, .refreshCompletions]
    .detach ∉ actions ∧
      ∃ window, (opened .standard newYear).run actions = .ok window ∧
        window.Shows .popup ∧ ¬window.Shows .panel := by
  intro actions
  have stays : .detach ∉ actions := by simp [actions]
  obtain ⟨window, ran, left⟩ := inactive_shown_run .standard newYear actions stays
  have seen : ((opened .standard newYear).run actions).map
      (fun window => (window.popup.visible, window.config.completionView)) =
        .ok (true, .popup) := by
    decide +kernel
  rw [ran, Except.map, Except.ok.injEq, Prod.mk.injEq] at seen
  refine ⟨stays, window, ran, seen.1, fun shown => ?_⟩
  obtain ⟨moment, other, after, cameBy, -⟩ := (left .panel).mp ⟨shown, by rw [seen.2]; decide⟩
  obtain ⟨before, whole, -⟩ := cameBy.before
  have given : .updateSettings other ∈ actions := whole ▸ List.mem_append_right before (by simp)
  simp [actions] at given

/-- The popup stays in sight when settings ask for the panel, and both are in sight after the next
look for completions. -/
theorem exists_popup_beside_panel :
    let panel := { MarkerConfig.standard with completionView := .panel }
    (∃ window, (opened .standard newYear).run [.insertText "#h".toList, .updateSettings panel] =
        .ok window ∧ window.config.completionView = .panel ∧ window.Shows .popup) ∧
      ∃ window, (opened .standard newYear).run
          [.insertText "#h".toList, .updateSettings panel, .refreshCompletions] = .ok window ∧
        window.Shows .popup ∧ window.Shows .panel := by
  intro panel
  constructor
  · have seen : ((opened .standard newYear).run
        [.insertText "#h".toList, .updateSettings panel]).map
          (fun window => (window.config.completionView, window.popup.visible)) =
        .ok (.panel, true) := by
      decide +kernel
    obtain ⟨window, ran, seen⟩ := exists_of_map_ok seen
    exact ⟨window, ran, Prod.mk.inj seen⟩
  · have seen : ((opened .standard newYear).run
        [.insertText "#h".toList, .updateSettings panel, .refreshCompletions]).map
          (fun window => (window.popup.visible, window.panel.visible)) = .ok (true, true) := by
      decide +kernel
    obtain ⟨window, ran, seen⟩ := exists_of_map_ok seen
    exact ⟨window, ran, Prod.mk.inj seen⟩

end InlineMarkers.NoteWindow
