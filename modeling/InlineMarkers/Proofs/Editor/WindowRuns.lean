import InlineMarkers.Proofs.Editor.WindowSteps
import Mathlib.Data.List.Induction

/-!
# Runs of a window

A run does one action after the other.  `exists_run` is the induction over a run
whose surface stays attached: it does not fail, and what every action keeps holds
at its end.

What a window remembers, such as the result of the last completion, stems from a
moment of the run.  `CameBy` records such a moment together with the actions that
were done since.
-/

namespace InlineMarkers.NoteWindow

variable {start window moment next : NoteWindow} {actions after : List WindowAction}
  {action : WindowAction} {answer : WindowAnswer} {event : WindowEvent}

theorem run_append (ran : start.run actions = .ok window) (after : List WindowAction) :
    start.run (actions ++ after) = window.run after := by
  calc
    start.run (actions ++ after) = start.run actions >>= fun window => window.run after :=
      List.foldlM_append
    _ = window.run after := by rw [ran]; rfl

theorem run_concat (ran : start.run actions = .ok window)
    (done : window.step action = .ok (answer, next)) :
    start.run (actions ++ [action]) = .ok next := by
  rw [run_append ran]
  simp only [run, List.foldlM_cons, done]
  rfl

/-- A run that does not detach the surface does not fail, and has what it starts with and every
action keeps. -/
theorem exists_run {P : List WindowAction → NoteWindow → Prop} (attached : start.attached = true)
    (initially : P [] start)
    (keeps : ∀ {actions window action answer next}, start.run actions = .ok window →
      window.step action = .ok (answer, next) → window.Change action next →
      P actions window → P (actions ++ [action]) next)
    (stays : .detach ∉ actions) :
    ∃ window, start.run actions = .ok window ∧ window.attached = true ∧ P actions window := by
  induction actions using List.reverseRecOn with
  | nil => exact ⟨start, rfl, attached, initially⟩
  | append_singleton actions action ih =>
      rw [List.mem_append, List.mem_singleton, not_or] at stays
      obtain ⟨window, ran, attachedStill, holds⟩ := ih stays.1
      obtain ⟨answer, next, done, change⟩ := exists_step attachedStill (Ne.symm stays.2)
      exact ⟨next, run_concat ran done, change.continues.attached.trans attachedStill,
        keeps ran done change holds⟩

theorem exists_of_map_ok {α β : Type} {f : α → β} {outcome : Except EditorError α} {value : β}
    (mapped : outcome.map f = .ok value) : ∃ found, outcome = .ok found ∧ f found = value := by
  cases outcome with
  | error cause => simp [Except.map] at mapped
  | ok found => exact ⟨found, rfl, Except.ok.inj mapped⟩

theorem exists_of_bind_ok {α β : Type} {outcome : Except EditorError α}
    {followUp : α → Except EditorError β} {value : β}
    (bound : outcome >>= followUp = .ok value) :
    ∃ found, outcome = .ok found ∧ followUp found = .ok value := by
  cases outcome with
  | error cause => simp [bind, Except.bind] at bound
  | ok found => exact ⟨found, rfl, bound⟩

/-! ## Moments of a run -/

/-- What listeners are told during some actions. -/
def toldDuring (window : NoteWindow) : List WindowAction → List WindowEvent
  | [] => []
  | action :: rest =>
      match window.step action with
      | .ok (_, next) => next.events ++ next.toldDuring rest
      | .error _ => []

theorem toldDuring_append (ran : start.run actions = .ok window) (after : List WindowAction) :
    start.toldDuring (actions ++ after) = start.toldDuring actions ++ window.toldDuring after := by
  induction actions generalizing start with
  | nil =>
      obtain rfl : start = window := Except.ok.inj ran
      rfl
  | cons first rest ih =>
      rw [run, List.foldlM_cons] at ran
      cases performed : start.step first with
      | error cause => simp [performed, Except.map, bind, Except.bind] at ran
      | ok outcome =>
          simp only [performed, Except.map, bind, Except.bind] at ran
          simp only [List.cons_append, toldDuring, performed, ih ran, List.append_assoc]

theorem toldDuring_concat (ran : start.run actions = .ok window)
    (done : window.step action = .ok (answer, next)) :
    start.toldDuring (actions ++ [action]) = start.toldDuring actions ++ next.events := by
  simp only [toldDuring_append ran, toldDuring, done, List.append_nil]

/-- A run from `start` to `window` came by the window `moment` and did some actions since. -/
structure CameBy (start : NoteWindow) (actions : List WindowAction) (window moment : NoteWindow)
    (after : List WindowAction) : Prop where
  before : ∃ before, actions = before ++ after ∧ start.run before = .ok moment
  since : moment.run after = .ok window

theorem CameBy.here (ran : start.run actions = .ok window) :
    start.CameBy actions window window [] :=
  ⟨⟨actions, by simp, ran⟩, rfl⟩

theorem CameBy.concat (cameBy : start.CameBy actions window moment after)
    (done : window.step action = .ok (answer, next)) :
    start.CameBy (actions ++ [action]) next moment (after ++ [action]) := by
  obtain ⟨before, rfl, ran⟩ := cameBy.before
  exact ⟨⟨before, by simp, ran⟩, run_concat cameBy.since done⟩

/-- A run with one more action came by its own end, or by a moment of the run before. -/
theorem CameBy.eq_or_concat (cameBy : start.CameBy (actions ++ [action]) next moment after)
    (ran : start.run actions = .ok window) :
    after = [] ∧ moment = next ∨
      ∃ earlier, after = earlier ++ [action] ∧ start.CameBy actions window moment earlier := by
  obtain ⟨before, whole, ranBefore⟩ := cameBy.before
  rcases List.eq_nil_or_concat after with rfl | ⟨earlier, last, rfl⟩
  · exact .inl ⟨rfl, Except.ok.inj cameBy.since⟩
  · rw [List.concat_eq_append, ← List.append_assoc] at whole
    obtain ⟨rfl, isLast⟩ := List.append_inj' whole rfl
    obtain rfl := List.singleton_inj.mp isLast
    exact .inr ⟨earlier, List.concat_eq_append,
      ⟨⟨before, rfl, ranBefore⟩, (run_append ranBefore earlier).symm.trans ran⟩⟩

/-- What is told after a moment is told in the whole run. -/
theorem CameBy.told_of_since (cameBy : start.CameBy actions window moment after)
    (told : event ∈ moment.toldDuring after) : event ∈ start.toldDuring actions := by
  obtain ⟨before, rfl, ran⟩ := cameBy.before
  rw [toldDuring_append ran]
  exact List.mem_append_right _ told

theorem CameBy.told_of_before (cameBy : start.CameBy actions window moment after)
    (done : window.step action = .ok (answer, next)) (told : event ∈ moment.toldDuring after) :
    event ∈ moment.toldDuring (after ++ [action]) := by
  rw [toldDuring_concat cameBy.since done]
  exact List.mem_append_left _ told

theorem CameBy.told_of_last (cameBy : start.CameBy actions window moment after)
    (done : window.step action = .ok (answer, next)) (told : event ∈ next.events) :
    event ∈ moment.toldDuring (after ++ [action]) := by
  rw [toldDuring_concat cameBy.since done]
  exact List.mem_append_right _ told

end InlineMarkers.NoteWindow
