import InlineMarkers.Proofs.Editor.WindowRuns
import InlineMarkers.Proofs.Validation.LocalFix

/-!
# Which text a remembered result belongs to

A completion is put in at the anchor of the result that the window remembers.
The result is looked for after every edit and quick fix and whenever it is asked
for, and it belongs to the text of that moment.  Putting a completion in changes
the text without looking again.  The lists go out of sight then, so nobody can
choose from them, but the window still takes a second completion, and puts it in
where the first one was being typed.
-/

namespace InlineMarkers

open Calendar Validation

/-- A marker that is being typed is found again from the place where it stops. -/
theorem CompletionContext.detect_anchorStop {text : List Char} {cursor : Option Int}
    {context : CompletionContext} (detected : detect text cursor = some context) :
    detect text (some context.anchorStop) = some context := by
  have stop : context.anchorStop =
      (cursor.map fun c => min c.toNat text.length).getD text.length := by
    simp only [detect, Option.map_eq_some_iff] at detected
    obtain ⟨⟨kind, found⟩, -, rfl⟩ := detected
    rw [ofOpen]
    split <;> rfl
  have inside : context.anchorStop ≤ text.length := by
    rw [stop]
    cases cursor with
    | none => exact Nat.le_refl _
    | some c => exact Nat.min_le_right _ _
  unfold detect at detected ⊢
  simp only [← stop] at detected
  simpa only [Option.map_some, Option.getD_some, Int.toNat_natCast, Nat.min_eq_left inside]
    using detected

namespace NoteWindow

variable {start window moment next : NoteWindow} {actions after : List WindowAction}
  {action : WindowAction} {answer : WindowAnswer}

/-- The result that a window remembers was looked for at a moment of the run.  The note is the
same since, unless a completion was put in; while a list is in sight, the note is the same. -/
structure LookedFor (start : NoteWindow) (actions : List WindowAction)
    (window moment : NoteWindow) (after : List WindowAction) : Prop extends
    start.CameBy actions window moment after where
  found : ∀ result ∈ window.result, result.FoundIn moment.text
  unchanged : (∃ value, .accepted value ∈ moment.toldDuring after) ∨ moment.text = window.text
  shown : window.ListShown → moment.text = window.text

theorem LookedFor.here (ran : start.run actions = .ok window)
    (found : ∀ result ∈ window.result, result.FoundIn window.text) :
    start.LookedFor actions window window [] :=
  ⟨.here ran, found, .inr rfl, fun _ => rfl⟩

/-- Nothing is looked for, and the note stays. -/
theorem LookedFor.stay (lookedFor : start.LookedFor actions window moment after)
    (done : window.step action = .ok (answer, next)) (text : next.text = window.text)
    (result : next.result = window.result) (shown : next.ListShown → window.ListShown) :
    start.LookedFor (actions ++ [action]) next moment (after ++ [action]) where
  toCameBy := lookedFor.concat done
  found := by
    rw [result]
    exact lookedFor.found
  unchanged := by
    rw [text]
    exact lookedFor.unchanged.imp_left fun ⟨value, told⟩ =>
      ⟨value, lookedFor.told_of_before done told⟩
  shown := by
    rw [text]
    exact fun inSight => lookedFor.shown (shown inSight)

theorem LookedFor.complete (lookedFor : start.LookedFor actions window moment after)
    (done : window.step action = .ok (answer, next)) (completed : window.Completed next) :
    start.LookedFor (actions ++ [action]) next moment (after ++ [action]) where
  toCameBy := lookedFor.concat done
  found := by
    rw [completed.result]
    exact lookedFor.found
  unchanged := .inl (completed.told.imp fun _ told => lookedFor.told_of_last done told)
  shown := fun inSight => absurd inSight completed.hidden

theorem LookedFor.change (lookedFor : start.LookedFor actions window moment after)
    (ran : start.run actions = .ok window) (done : window.step action = .ok (answer, next))
    (change : window.Change action next) :
    ∃ moment after, start.LookedFor (actions ++ [action]) next moment after := by
  have ranOn := run_concat ran done
  cases change with
  | edited _ edited => exact ⟨next, [], .here ranOn edited.found⟩
  | completed _ completed => exact ⟨moment, _, lookedFor.complete done completed⟩
  | configured _ configured =>
      exact ⟨moment, _, lookedFor.stay done configured.text configured.result configured.shown⟩
  | rested _ rested =>
      rcases rested.result with ⟨result, shown⟩ | found
      · exact ⟨moment, _, lookedFor.stay done rested.text result shown⟩
      · exact ⟨next, [], .here ranOn found⟩

/-- A completion that is put in replaces the anchor of a result that was looked for at a moment
of the run.  The note is the same since then, unless another completion was put in; a list of
completions is only in sight while it is the same. -/
theorem applyCompletion_anchor (config : MarkerConfig) (today : Date)
    (actions : List WindowAction) (stays : .detach ∉ actions) (item : Candidate) :
    ∃ window applied next, (opened config today).run actions = .ok window ∧
      window.applyCompletion (some item) = .ok (applied, next) ∧
      (applied = true →
        ∃ result moment after, window.result = some result ∧
          next.document = window.document.replace
            ⟨result.anchorStart, result.anchorStop, result.applyText item⟩ ∧
          (opened config today).CameBy actions window moment after ∧
          result.FoundIn moment.text ∧
          ((∃ value, .accepted value ∈ moment.toldDuring after) ∨ moment.text = window.text) ∧
          (window.ListShown → moment.text = window.text)) := by
  have attached : (opened config today).attached = true := rfl
  obtain ⟨window, ran, attachedStill, moment, after, lookedFor⟩ := exists_run
    (P := fun actions window =>
      ∃ moment after, (opened config today).LookedFor actions window moment after)
    attached
    ⟨_, [], .here rfl fun _ isResult => absurd isResult (Option.not_mem_none _)⟩
    (fun ran done change ⟨_, _, lookedFor⟩ => lookedFor.change ran done change)
    stays
  obtain ⟨applied, next, performed, takes⟩ := applyCompletion_spec attachedStill (some item)
  refine ⟨window, applied, next, ran, performed, fun isApplied => ?_⟩
  cases takes with
  | refused => exact absurd isApplied Bool.false_ne_true
  | accepted result _ remembered given replaced _ =>
      obtain rfl := Option.some.inj given
      exact ⟨result, moment, after, remembered, replaced, lookedFor.toCameBy,
        lookedFor.found result remembered, lookedFor.unchanged, lookedFor.shown⟩

/-- The priority that is being typed in the examples. -/
def highPriority : Candidate :=
  ⟨"high", "High Priority", none, none⟩

/-- A priority that is being typed is completed at its anchor. -/
theorem applyCompletion_anchor_of_typed_priority :
    .detach ∉ [WindowAction.insertText "#hgh".toList, .refreshCompletions] ∧
      ∃ window next result,
        (opened .standard newYear).run [.insertText "#hgh".toList, .refreshCompletions] =
          .ok window ∧
        window.applyCompletion (some highPriority) = .ok (true, next) ∧
        window.result = some result ∧ result.FoundIn window.text ∧
        next.text = "#high".toList := by
  have stays : .detach ∉ [WindowAction.insertText "#hgh".toList, .refreshCompletions] := by simp
  obtain ⟨window, applied, next, ran, performed, anchored⟩ :=
    applyCompletion_anchor .standard newYear _ stays highPriority
  have seen : ((opened .standard newYear).run
      [.insertText "#hgh".toList, .refreshCompletions]).map (fun window => (window.popup.visible,
        (window.applyCompletion (some highPriority)).map fun outcome =>
          (outcome.1, outcome.2.text))) = .ok (true, .ok (true, "#high".toList)) := by
    decide +kernel
  simp only [ran, performed, Except.map, Except.ok.injEq, Prod.mk.injEq] at seen
  obtain ⟨visible, rfl, text⟩ := seen
  obtain ⟨result, moment, after, remembered, -, -, found, -, shown⟩ := anchored rfl
  rw [shown (.inl visible)] at found
  exact ⟨stays, window, next, result, ran, performed, remembered, found, text⟩

/-- A second completion in a row is put in at an anchor that the text does not have at any
place: the priority that was completed already gets the end of the completion twice. -/
theorem exists_completion_at_foreign_anchor :
    ∃ window next,
      (opened .standard newYear).run
        [.insertText "#hgh".toList, .applyCompletion (some highPriority)] = .ok window ∧
      window.applyCompletion (some highPriority) = .ok (true, next) ∧
      window.text = "#high".toList ∧ next.text = "#highh".toList ∧
      ∀ result ∈ window.result, ¬result.FoundIn window.text := by
  have seen : ((opened .standard newYear).run
      [.insertText "#hgh".toList, .applyCompletion (some highPriority)]).map (fun window =>
        (window.text, window.result.map fun result => (result.query, result.anchorStop),
          (window.applyCompletion (some highPriority)).map fun outcome =>
            (outcome.1, outcome.2.text))) =
      .ok ("#high".toList, some ("hgh".toList, 4), .ok (true, "#highh".toList)) := by
    decide +kernel
  obtain ⟨window, ran, seen⟩ := exists_of_map_ok seen
  simp only [Prod.mk.injEq] at seen
  obtain ⟨text, remembered, seenAfter⟩ := seen
  obtain ⟨⟨applied, next⟩, performed, seenAfter⟩ := exists_of_map_ok seenAfter
  obtain ⟨rfl, textAfter⟩ := Prod.mk.inj seenAfter
  refine ⟨window, next, ran, performed, text, textAfter, fun result isResult foundIn => ?_⟩
  obtain ⟨cursor, context, detected, -, query, -, stop⟩ := foundIn
  rw [isResult, Option.map_some, Option.some.injEq, Prod.mk.injEq] at remembered
  have detectedAgain := CompletionContext.detect_anchorStop detected
  rw [text, ← stop, remembered.2] at detectedAgain
  have typed : (CompletionContext.detect "#high".toList (some (4 : Nat))).map (·.query) =
      some "hig".toList := by
    decide +kernel
  rw [detectedAgain, Option.map_some, ← query, remembered.1] at typed
  exact absurd typed (by decide)

end NoteWindow

end InlineMarkers
