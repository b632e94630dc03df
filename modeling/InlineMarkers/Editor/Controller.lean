import InlineMarkers.Diagnostic.Basic
import InlineMarkers.Settings.MarkerConfig

/-!
# Validating while typing

The controller validates every change at once and says what it found; it asks
for the tooltip only when the note has been left alone for a while.  A single
timer, started anew by every change with something to show, measures that while.

The controller never looks into what its validator finds, so anything can take the
place of the diagnostics.
-/

namespace InlineMarkers

/-- A function that validates a note under some settings; it may fail. -/
abbrev Validator (Found : Type := Diagnostic) := MarkerConfig → List Char → Option (List Found)

/-- What the controller says. -/
inductive ControllerSignal (Found : Type := Diagnostic) where
  /-- The diagnostics of the note may have changed. -/
  | changed (diagnostics : List Found)
  /-- The tooltip should show some diagnostics. -/
  | tooltip (diagnostics : List Found)
  deriving DecidableEq, Repr

inductive ControllerAction where
  | request (text : List Char)
  | updateSettings (config : MarkerConfig)
  | cancel
  /-- The time of the timer is up, if it is running. -/
  | timeout
  deriving DecidableEq, Repr

structure Controller (Found : Type := Diagnostic) where
  config : MarkerConfig
  text : List Char
  diagnostics : List Found
  pending : Bool
  deriving DecidableEq, Repr

namespace Controller

variable {Found : Type}

/-- The controller before anything is typed. -/
def ofConfig (config : MarkerConfig) : Controller Found :=
  ⟨config, [], [], false⟩

/-- How long the timer runs, in milliseconds. -/
def delay (controller : Controller Found) : Nat :=
  controller.config.tooltipDelay

/-- Validates a note.  A validator that fails has found nothing. -/
def request (validator : Validator Found) (controller : Controller Found) (text : List Char) :
    Controller Found × List (ControllerSignal Found) :=
  let diagnostics := (validator controller.config text).getD []
  ({ controller with
      text
      diagnostics
      pending := !diagnostics.isEmpty && controller.config.enabled },
    [.changed diagnostics])

def cancel (controller : Controller Found) : Controller Found :=
  { controller with pending := false }

/-- Takes other settings and validates the note again. -/
def updateSettings (validator : Validator Found) (controller : Controller Found)
    (config : MarkerConfig) : Controller Found × List (ControllerSignal Found) :=
  let updated := { controller with config }
  request validator (if config.enabled then updated else updated.cancel) controller.text

/-- The end of the timer, if it is running: it stops, and the tooltip is asked for. -/
def fire (controller : Controller Found) : Controller Found × List (ControllerSignal Found) :=
  if controller.pending then
    (controller.cancel,
      if controller.diagnostics.isEmpty then [] else [.tooltip controller.diagnostics])
  else (controller, [])

def step (validator : Validator Found) (controller : Controller Found) :
    ControllerAction → Controller Found × List (ControllerSignal Found)
  | .request text => controller.request validator text
  | .updateSettings config => controller.updateSettings validator config
  | .cancel => (controller.cancel, [])
  | .timeout => controller.fire

def run (validator : Validator Found) (controller : Controller Found) :
    List ControllerAction → List (Controller Found × List (ControllerSignal Found))
  | [] => []
  | action :: others =>
      let outcome := controller.step validator action
      outcome :: outcome.1.run validator others

end Controller

end InlineMarkers
