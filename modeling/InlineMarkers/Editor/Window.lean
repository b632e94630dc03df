import InlineMarkers.Completion.Source
import InlineMarkers.Editor.CompletionList
import InlineMarkers.Editor.Controller
import InlineMarkers.Editor.Decoration
import InlineMarkers.Editor.Document
import InlineMarkers.Editor.Tooltip
import InlineMarkers.Validation.Note

/-!
# The note window

The window holds one note in an editor and a status line.  Every change of the
text hides the tooltip, validates the note, redraws its decorations and looks
for completions; only the change that a completion itself makes does not look
for completions again.  The tooltip comes when the timer of the controller ends.

The library reaches the editor's text through a surface, which can be detached;
whatever then needs the text fails.
-/

namespace InlineMarkers

open Text Calendar

inductive WindowEvent where
  /-- The note was validated and has so many diagnostics. -/
  | changed (count : Nat)
  /-- A completion with this value was put in. -/
  | accepted (value : List Char)
  deriving DecidableEq, Repr

/-- The keys that the editor handles itself, and all others. -/
inductive EditorKey where
  | down
  | up
  | accept
  | escape
  | other
  deriving DecidableEq, Repr

/-- The text was needed but the surface is detached. -/
inductive EditorError where
  | detached
  deriving DecidableEq, Repr

inductive WindowAction where
  | setText (text : List Char)
  | insertText (text : List Char)
  /-- The note is edited in any other way; this is the editor's document afterwards. -/
  | edit (document : Document)
  | moveCursor (position : Int)
  | pressKey (key : EditorKey)
  | refreshCompletions
  | applyCompletion (candidate : Option Candidate)
  | applyQuickFix (entry : DiagnosticEntry) (replacement : Value)
  | timeout
  | clickFix (button : Int)
  | closeTooltip
  | blur
  | hideEditor
  | updateSettings (config : MarkerConfig)
  | detach
  deriving Repr

inductive WindowAnswer where
  | done
  /-- Whether a key was left to others. -/
  | leftToOthers (answer : Bool)
  /-- Whether an edit was made. -/
  | applied (answer : Bool)
  | completions (result : Option CompletionResult)
  deriving DecidableEq, Repr

structure NoteWindow where
  validator : Validator
  config : MarkerConfig
  document : Document
  /-- Whether the surface still has its editor. -/
  attached : Bool
  shown : Bool
  source : CompletionSource
  result : Option CompletionResult
  controller : Controller
  tooltip : Tooltip
  popup : CompletionList
  panel : CompletionPanel
  decorations : List Decoration
  status : String
  /-- What the window has told its listeners since its last action began, the latest last. -/
  events : List WindowEvent

namespace NoteWindow

def ofConfig (validator : Validator) (config : MarkerConfig) : NoteWindow where
  validator
  config
  document := Document.empty
  attached := true
  shown := true
  source := CompletionSource.ofConfig config
  result := none
  controller := Controller.ofConfig config
  tooltip := Tooltip.ofConfig config
  popup := CompletionList.ofLimit config.popupLimit
  panel := CompletionPanel.ofLimit config.panelLimit
  decorations := []
  status := ""
  events := []

/-- The window as it opens on a day. -/
def opened (config : MarkerConfig) (today : Date) : NoteWindow :=
  ofConfig (fun config text => some (Validation.validate config today text)) config

def text (window : NoteWindow) : List Char :=
  window.document.text

def diagnostics (window : NoteWindow) : List Diagnostic :=
  window.controller.diagnostics

/-- Whether the list that the settings ask for is in sight. -/
def completionsVisible (window : NoteWindow) : Bool :=
  match window.config.completionView with
  | .popup => window.popup.visible
  | .panel => window.panel.visible

def activeList (window : NoteWindow) : CompletionList :=
  match window.config.completionView with
  | .popup => window.popup
  | .panel => window.panel.list

def updateActiveList (window : NoteWindow) (change : CompletionList → CompletionList) :
    NoteWindow :=
  match window.config.completionView with
  | .popup => { window with popup := change window.popup }
  | .panel => { window with panel := { window.panel with list := change window.panel.list } }

/-- How many diagnostics of a severity there are, in words. -/
def countText (diagnostics : List Diagnostic) (severity : Severity) : Option String :=
  let count := diagnostics.countP (·.severity == severity)
  let word := severity.word
  if count = 0 then none
  else if count = 1 then some s!"1 {word}"
  else some s!"{count} {word}s"

/-- The status line: how many diagnostics of each severity there are, in the order of the
severities' words. -/
def statusText (diagnostics : List Diagnostic) : String :=
  ", ".intercalate ([.error, .suggestion, .warning].filterMap (countText diagnostics))

/-- Takes notice of what the controller says. -/
def receive (window : NoteWindow) (signal : ControllerSignal) :
    Except EditorError NoteWindow :=
  match signal with
  | .changed diagnostics =>
      .ok
        { window with
          decorations := Diagnostic.decorations window.config window.text diagnostics
          status := statusText diagnostics
          events := window.events ++ [.changed diagnostics.length] }
  | .tooltip diagnostics =>
      if !window.shown then .ok window
      else if !window.attached then .error .detached
      else
        let near := Diagnostic.atPosition diagnostics window.document.cursorIndex
        .ok
          { window with
            tooltip := window.tooltip.showDiagnostics
              (if near.isEmpty then diagnostics else near) }

/-- The window with the controller's new state, after its signals are received. -/
def afterController (window : NoteWindow) (outcome : Controller × List ControllerSignal) :
    Except EditorError NoteWindow :=
  outcome.2.foldlM receive { window with controller := outcome.1 }

def validate (window : NoteWindow) : Except EditorError NoteWindow :=
  window.afterController (window.controller.request window.validator window.text)

def hideCompletions (window : NoteWindow) : NoteWindow :=
  { window with popup := window.popup.dismiss, panel := window.panel.dismiss }

/-- Shows a result in the active list, or hides the lists if there is none. -/
def showCompletions (window : NoteWindow) : Option CompletionResult → NoteWindow
  | none => window.hideCompletions
  | some result =>
      match window.config.completionView with
      | .popup => { window with popup := window.popup.showResult (some result) }
      | .panel => { window with panel := window.panel.showResult (some result) }

def refreshCompletions (window : NoteWindow) : Except EditorError NoteWindow :=
  if !window.attached then .error .detached
  else
    let (result, source) := window.source.complete window.text
      (some window.document.cursorIndex) (some window.activeList.limit)
    .ok ({ window with source, result }.showCompletions result)

def textChanged (window : NoteWindow) : Except EditorError NoteWindow := do
  let validated ← { window with tooltip := window.tooltip.hide }.validate
  validated.refreshCompletions

/-- The window after an edit that leaves the editor with another document. -/
def edit (window : NoteWindow) (document : Document) : Except EditorError NoteWindow :=
  { window with document }.textChanged

def setText (window : NoteWindow) (text : List Char) : Except EditorError NoteWindow :=
  window.edit (Document.setText text)

def insertText (window : NoteWindow) (text : List Char) : Except EditorError NoteWindow :=
  window.edit (window.document.insert text)

def moveCursor (window : NoteWindow) (position : Int) : NoteWindow :=
  { window with document := window.document.moveCursor position }

/-- Makes an edit as a change of the text; the cursor comes to lie behind the new text at the
very end. -/
def performEdit (window : NoteWindow) (edit : Edit) : Except EditorError NoteWindow := do
  let before := window.document
  let changed ← window.edit (before.perform edit)
  return { changed with document := changed.document.moveBehind before edit }

/-- Applies a quick fix and tells whether it was applied. -/
def applyQuickFix (window : NoteWindow) (entry : DiagnosticEntry) (given : Value) :
    Except EditorError (Bool × NoteWindow) :=
  if !window.attached then .ok (false, window)
  else
    match Edit.ofFix? window.text entry given with
    | none => .ok (false, window)
    | some edit => do
        let edited ← window.performEdit edit
        return (true, { edited with tooltip := edited.tooltip.hide })

/-- Puts a candidate in the place of the anchor of the completions that were found last, and
tells whether it did. -/
def applyCompletion (window : NoteWindow) (candidate : Option Candidate) :
    Except EditorError (Bool × NoteWindow) :=
  match window.result, candidate with
  | some result, some candidate =>
      if !window.attached then .error .detached
      else if window.text.length < result.anchorStop then .ok (false, window)
      else
        let value := result.applyText candidate
        let edit : Edit := ⟨result.anchorStart, result.anchorStop, value⟩
        let edited := { window with document := window.document.replace edit }.hideCompletions
        let told := { edited with events := edited.events ++ [WindowEvent.accepted value] }
        told.validate.map (true, ·)
  | _, _ => .ok (false, window)

/-- Takes a key and tells whether it was left to others.  The keys of the lists only count
while the active list is in sight; otherwise Escape closes the tooltip. -/
def pressKey (window : NoteWindow) (key : EditorKey) :
    Except EditorError (Bool × NoteWindow) :=
  if window.completionsVisible then
    match key with
    | .down => .ok (false, window.updateActiveList (·.moveSelection 1))
    | .up => .ok (false, window.updateActiveList (·.moveSelection (-1)))
    | .accept =>
        match window.activeList.current with
        | some candidate =>
            (window.applyCompletion (some candidate)).map fun (_, window) => (false, window)
        | none => .ok (true, window)
    | .escape => .ok (false, window.hideCompletions)
    | .other => .ok (true, window)
  else if key = .escape ∧ window.tooltip.visible then
    .ok (false, { window with tooltip := window.tooltip.hide })
  else .ok (true, window)

def fire (window : NoteWindow) : Except EditorError NoteWindow :=
  window.afterController window.controller.fire

/-- Presses a button of the tooltip; nothing happens when there is no such button. -/
def clickFix (window : NoteWindow) (button : Int) : Except EditorError NoteWindow :=
  if button < 0 then .ok window
  else
    match window.tooltip.buttons[button.toNat]? with
    | none => .ok window
    | some (_, row, fix) =>
        (window.applyQuickFix row.entry (.text (String.ofList fix.replacement))).map (·.2)

def closeTooltip (window : NoteWindow) : NoteWindow :=
  { window with tooltip := window.tooltip.hide }

/-- Takes the focus away, which stops the timer. -/
def blur (window : NoteWindow) : NoteWindow :=
  { window with controller := window.controller.cancel }

def hideEditor (window : NoteWindow) : NoteWindow :=
  { window with shown := false }

def detach (window : NoteWindow) : NoteWindow :=
  { window with attached := false }

def updateSettings (window : NoteWindow) (config : MarkerConfig) :
    Except EditorError NoteWindow :=
  let updated :=
    { window with
      config
      tooltip := window.tooltip.updateSettings config
      source := window.source.updateSettings config
      popup := { window.popup with limit := config.popupLimit }
      panel := { window.panel with
        list := { window.panel.list with limit := config.panelLimit } } }
  updated.afterController (updated.controller.updateSettings updated.validator config)

/-- Does an action, without forgetting what the listeners were told before. -/
def perform (window : NoteWindow) : WindowAction → Except EditorError (WindowAnswer × NoteWindow)
  | .setText text => (window.setText text).map (.done, ·)
  | .insertText text => (window.insertText text).map (.done, ·)
  | .edit document => (window.edit document).map (.done, ·)
  | .moveCursor position => .ok (.done, window.moveCursor position)
  | .pressKey key =>
      (window.pressKey key).map fun (answer, window) => (.leftToOthers answer, window)
  | .refreshCompletions =>
      window.refreshCompletions.map fun window => (.completions window.result, window)
  | .applyCompletion candidate =>
      (window.applyCompletion candidate).map fun (answer, window) => (.applied answer, window)
  | .applyQuickFix entry replacement =>
      (window.applyQuickFix entry replacement).map fun (answer, window) =>
        (.applied answer, window)
  | .timeout => window.fire.map (.done, ·)
  | .clickFix button => (window.clickFix button).map (.done, ·)
  | .closeTooltip => .ok (.done, window.closeTooltip)
  | .blur => .ok (.done, window.blur)
  | .hideEditor => .ok (.done, window.hideEditor)
  | .updateSettings config => (window.updateSettings config).map (.done, ·)
  | .detach => .ok (.done, window.detach)

def step (window : NoteWindow) (action : WindowAction) :
    Except EditorError (WindowAnswer × NoteWindow) :=
  { window with events := [] }.perform action

def run (window : NoteWindow) (actions : List WindowAction) : Except EditorError NoteWindow :=
  actions.foldlM (fun window action => (window.step action).map (·.2)) window

end NoteWindow

end InlineMarkers
