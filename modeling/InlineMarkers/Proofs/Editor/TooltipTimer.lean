import InlineMarkers.Editor.Controller
import InlineMarkers.Proofs.Validation.LocalFix

/-!
# When the tooltip is asked for

Every validation says once what was found, whether a change of the note or other
settings ask for it, and whether the validator fails or not.  It starts the timer
anew if there is something to show and the settings enable it, and stops it
otherwise.  Between two validations only the end of the timer and a cancel are left,
and the first of them stops it.  So the tooltip is asked for at most once for each
validation, with what that validation found.

Nothing is assumed of the validator.  What it finds can be of any type, and since it
may depend on more than its arguments, every turn of a run brings its own.
-/

namespace InlineMarkers

open Validation

variable {Found : Type}

/-- Whether an action validates the note. -/
def ControllerAction.validates : ControllerAction → Bool
  | .request _ | .updateSettings _ => true
  | .cancel | .timeout => false

namespace Controller

/-- An action, and the validator as it is at that time. -/
abbrev Turn (Found : Type) := Validator Found × ControllerAction

/-- The controller after some turns. -/
def after (controller : Controller Found) (turns : List (Turn Found)) : Controller Found :=
  turns.foldl (fun controller turn => (controller.step turn.1 turn.2).1) controller

/-- What the controller says during some turns. -/
def said (controller : Controller Found) : List (Turn Found) → List (ControllerSignal Found)
  | [] => []
  | turn :: rest =>
      let outcome := controller.step turn.1 turn.2
      outcome.2 ++ outcome.1.said rest

variable {controller : Controller Found} {validator : Validator Found} {action : ControllerAction}
  {turns : List (Turn Found)}

/-- A run with one validator has the outcomes of its turns. -/
theorem run_concat (controller : Controller Found) (validator : Validator Found)
    (actions : List ControllerAction) (action : ControllerAction) :
    controller.run validator (actions ++ [action]) =
      controller.run validator actions ++
        [(controller.after (actions.map (validator, ·))).step validator action] := by
  induction actions generalizing controller with
  | nil => rfl
  | cons first rest ih => exact congrArg (_ :: ·) (ih (controller.step validator first).1)

/-! ## What a turn does -/

/-- The settings and the text that a controller has after an action. -/
def subject (controller : Controller Found) : ControllerAction → MarkerConfig × List Char
  | .request text => (controller.config, text)
  | .updateSettings config => (config, controller.text)
  | .cancel | .timeout => (controller.config, controller.text)

/-- A validation says once what is found in the text under the settings that hold from then on;
the timer runs if something is found and the settings enable it. -/
theorem step_of_validates (validates : action.validates = true) :
    controller.step validator action =
      let (config, text) := controller.subject action
      let found := (validator config text).getD []
      (⟨config, text, found, !found.isEmpty && config.enabled⟩, [.changed found]) := by
  cases action with
  | request text => rfl
  | updateSettings config =>
      rw [step, updateSettings]
      split <;> rfl
  | cancel | timeout => cases validates

theorem cancel_of_not_pending (still : controller.pending = false) :
    controller.cancel = controller := by
  rw [cancel, ← still]

/-- Neither a cancel nor the end of the timer does more to the controller than to stop the timer. -/
theorem step_of_not_validates (idle : action.validates = false) :
    (controller.step validator action).1 = controller.cancel := by
  cases action with
  | cancel => rfl
  | timeout =>
      rw [step, fire]
      split
      · rfl
      · rename_i still
        exact (cancel_of_not_pending (by simpa using still)).symm
  | request | updateSettings => cases idle

/-- While the timer runs, there is something to show and the settings enable it. -/
def Warranted (controller : Controller Found) : Prop :=
  controller.pending = true → controller.diagnostics ≠ [] ∧ controller.config.enabled = true

theorem warranted_step (controller : Controller Found) (turn : Turn Found) :
    (controller.step turn.1 turn.2).1.Warranted := by
  intro pending
  cases validates : turn.2.validates with
  | true =>
      rw [step_of_validates validates] at pending ⊢
      simpa using pending
  | false =>
      rw [step_of_not_validates validates] at pending
      exact absurd pending Bool.false_ne_true

/-! ## Runs -/

theorem warranted_after (warranted : controller.Warranted) (turns : List (Turn Found)) :
    (controller.after turns).Warranted := by
  induction turns generalizing controller with
  | nil => exact warranted
  | cons turn rest ih => exact ih (warranted_step controller turn)

/-- None of the turns validates. -/
def Quiet (turns : List (Turn Found)) : Prop :=
  ∀ turn ∈ turns, turn.2.validates = false

theorem diagnostics_after (quiet : Quiet turns) :
    (controller.after turns).diagnostics = controller.diagnostics := by
  induction turns generalizing controller with
  | nil => rfl
  | cons turn rest ih =>
      obtain ⟨first, others⟩ := List.forall_mem_cons.mp quiet
      calc
        (controller.after (turn :: rest)).diagnostics =
            (controller.step turn.1 turn.2).1.diagnostics := ih others
        _ = controller.diagnostics := by rw [step_of_not_validates first]; rfl

/-- A timer that stands still says nothing before the next validation. -/
theorem said_of_not_pending (still : controller.pending = false) (quiet : Quiet turns) :
    controller.said turns = [] := by
  induction turns generalizing controller with
  | nil => rfl
  | cons turn rest ih =>
      obtain ⟨first, others⟩ := List.forall_mem_cons.mp quiet
      have silent : (controller.step turn.1 turn.2).2 = [] := by
        obtain ⟨validator, action⟩ := turn
        cases action with
        | cancel => rfl
        | timeout => simp [step, fire, still]
        | request | updateSettings => cases first
      rw [said, silent, List.nil_append]
      exact ih (by rw [step_of_not_validates first]; rfl) others

/-- Before the next validation, a timer that runs asks for the tooltip once, if it comes to its
end before it is cancelled. -/
theorem said_of_quiet (warranted : controller.Warranted) (quiet : Quiet turns) :
    controller.said turns =
      if controller.pending = true ∧ turns.head?.map Prod.snd = some .timeout then
        [.tooltip controller.diagnostics]
      else [] := by
  cases pending : controller.pending with
  | false => simp [said_of_not_pending pending quiet]
  | true =>
      cases turns with
      | nil => simp [said]
      | cons turn rest =>
          obtain ⟨validator, action⟩ := turn
          obtain ⟨first, others⟩ := List.forall_mem_cons.mp quiet
          -- the first turn stops the timer, so only this turn can say anything
          have still : (controller.step validator action).1.pending = false := by
            rw [step_of_not_validates first]
            rfl
          rw [said, said_of_not_pending still others, List.append_nil]
          cases action with
          | cancel => simp [step]
          | timeout => simp [step, fire, pending, (warranted pending).1]
          | request | updateSettings => cases first

/-- In whatever way a controller came to its state: a running timer has something to show under
settings that enable it; a validation says once what is found, which then stays until the next
one; in the meantime the tooltip is asked for at most once, with what was found, and that exactly
when the timer was started and comes to its end before it is cancelled; and it is not asked for
between a cancel and a validation, nor before the first one. -/
theorem tooltip_of_validation (config : MarkerConfig) (past : List (Turn Found)) :
    let controller := (ofConfig config : Controller Found).after past
    (controller.pending = true →
      controller.diagnostics ≠ [] ∧ controller.config.enabled = true) ∧
    (∀ validator action, action.validates = true →
      let (settings, text) := controller.subject action
      let found := (validator settings text).getD []
      let (validated, signals) := controller.step validator action
      signals = [.changed found] ∧ validated.diagnostics = found ∧
      ∀ turns, Quiet turns →
        (validated.after turns).diagnostics = found ∧
        validated.said turns =
          if found ≠ [] ∧ settings.enabled = true ∧
              turns.head?.map Prod.snd = some .timeout then
            [.tooltip found]
          else []) ∧
    ∀ turns, Quiet turns →
      (∀ validator, controller.said ((validator, .cancel) :: turns) = []) ∧
      (ofConfig config : Controller Found).said turns = [] := by
  intro controller
  have initially : (ofConfig config : Controller Found).Warranted :=
    fun pending => absurd pending Bool.false_ne_true
  refine ⟨warranted_after initially past, fun validator action validates => ?_,
    fun turns quiet => ⟨fun validator => ?_, said_of_not_pending rfl quiet⟩⟩
  · have warranted := warranted_step controller (validator, action)
    simp only [step_of_validates validates] at warranted ⊢
    refine ⟨trivial, trivial, fun turns quiet => ⟨diagnostics_after quiet, ?_⟩⟩
    simp only [said_of_quiet warranted quiet, Bool.and_eq_true, Bool.not_eq_true',
      List.isEmpty_eq_false_iff, and_assoc]
  · change controller.cancel.said turns = []
    exact said_of_not_pending rfl quiet

/-- A priority that is typed twice: the tooltip is asked for once, unless it is cancelled, and a
validator that fails has found nothing. -/
theorem tooltip_of_validation_of_typed_priority :
    let validator : Validator := fun config text => some (validate config newYear text)
    let failing : Validator := fun _ _ => none
    let typed := (ofConfig .standard).after [(validator, .request "#hg".toList)]
    let outcome := typed.step validator (.request "#hgh".toList)
    typed.pending = true ∧ typed.diagnostics ≠ [] ∧
      outcome.1.diagnostics.length = 1 ∧
      outcome.1.said [(failing, .timeout), (failing, .timeout)] =
        [.tooltip outcome.1.diagnostics] ∧
      outcome.1.said [(failing, .cancel), (failing, .timeout)] = [] ∧
      (typed.step failing (.updateSettings .standard)).2 = [.changed []] := by
  intro validator failing typed outcome
  obtain ⟨running, validates, -⟩ :=
    tooltip_of_validation .standard [(validator, .request "#hg".toList)]
  have seen : typed.pending = true ∧ outcome.1.diagnostics.length = 1 := by decide +kernel
  obtain ⟨-, same, since⟩ := validates validator (.request "#hgh".toList) rfl
  obtain ⟨failed, -⟩ := validates failing (.updateSettings .standard) rfl
  have shown : outcome.1.diagnostics ≠ [] := by
    rw [← List.length_pos_iff, seen.2]
    decide
  have asked := (since [(failing, .timeout), (failing, .timeout)]
    (by simp [Quiet, ControllerAction.validates])).2
  have cancelled := (since [(failing, .cancel), (failing, .timeout)]
    (by simp [Quiet, ControllerAction.validates])).2
  rw [← same, if_pos ⟨shown, rfl, rfl⟩] at asked
  rw [if_neg (by simp)] at cancelled
  exact ⟨seen.1, (running seen.1).1, seen.2, asked, cancelled, failed⟩

end Controller

end InlineMarkers
