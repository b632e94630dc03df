import InlineMarkers.Completion.Source
import InlineMarkers.Proofs.Completion.CacheHistory

/-!
# Remembered lists change no answer

A completion source may have remembered, replaced and forgotten any lists: it
answers like a new one with the same settings.  The reason is that a remembered
list is always the whole ranked list of its key, and that this list depends on
the key alone.  Anchors, limits and settings come into an answer only afterwards.
-/

namespace InlineMarkers

/-- The ranked candidates for a kind of marker and a query. -/
def rankedForKey (key : MarkerKind × List Char) : Except NumeralError (List Candidate) :=
  Candidate.rank (some key.1) key.2 (Candidate.table (some key.1) key.2)

namespace CompletionCache

variable {cache : CompletionCache (MarkerKind × List Char)} {key : MarkerKind × List Char}
  {entry : CacheEntry} {anchor : Int}

/-- Every remembered list is the whole ranked list of its key. -/
def Faithful (cache : CompletionCache (MarkerKind × List Char)) : Prop :=
  ∀ pair ∈ cache.entries, rankedForKey pair.1 = .ok pair.2.items

theorem faithful_of_nil (nothing : cache.entries = []) : cache.Faithful := by
  intro pair member
  rw [nothing] at member
  exact absurd member List.not_mem_nil

theorem Faithful.put (faithful : cache.Faithful) (ranked : rankedForKey key = .ok entry.items) :
    (cache.put key entry).Faithful := by
  intro pair member
  rcases mem_entries_put member with ⟨before, -⟩ | rfl
  · exact faithful pair before
  · exact ranked

theorem Faithful.of_find? (faithful : cache.Faithful)
    (found : cache.find? key anchor = some entry) : rankedForKey key = .ok entry.items := by
  rw [find?, Option.filter_eq_some_iff, Option.map_eq_some_iff] at found
  obtain ⟨⟨pair, isFound, rfl⟩, -⟩ := found
  obtain rfl : pair.1 = key := by simpa using List.find?_some isFound
  exact faithful pair (List.mem_of_find?_eq_some isFound)

end CompletionCache

namespace CompletionSource

variable {source first second : CompletionSource} {text : List Char} {cursor limit : Option Int}

/-- The settings of a source after an action. -/
def settingsAfter (config : MarkerConfig) : CompletionAction → MarkerConfig
  | .updateSettings config => config
  | _ => config

/-- A source whose cache is faithful ranks as if it remembered nothing, and stays so. -/
theorem ranked_of_faithful (faithful : source.cache.Faithful) (context : CompletionContext) :
    (source.ranked context).1 = rankedFor context ∧
      (source.ranked context).2.cache.Faithful ∧
      (source.ranked context).2.config = source.config := by
  cases found : source.cache.find? (context.kind, context.query) context.anchorStart with
  | some entry =>
      simp only [ranked, CompletionCache.get, found]
      exact ⟨(faithful.of_find? found).symm, faithful, trivial⟩
  | none =>
      simp only [ranked, CompletionCache.get, found]
      cases outcome : rankedFor context with
      | error cause => exact ⟨rfl, faithful, rfl⟩
      | ok items => exact ⟨rfl, CompletionCache.Faithful.put faithful outcome, rfl⟩

theorem complete_keeps (faithful : source.cache.Faithful) :
    (source.complete text cursor limit).2.cache.Faithful ∧
      (source.complete text cursor limit).2.config = source.config := by
  unfold complete
  cases CompletionContext.detect text cursor with
  | none => exact ⟨faithful, rfl⟩
  | some context =>
      obtain ⟨-, kept⟩ := ranked_of_faithful faithful context
      dsimp only
      split <;> rename_i isRanked <;> rw [isRanked] at kept <;> exact kept

/-- Two sources with faithful caches and the same settings give the same answers. -/
theorem complete_congr (faithfulFirst : first.cache.Faithful)
    (faithfulSecond : second.cache.Faithful) (sameConfig : first.config = second.config) :
    (first.complete text cursor limit).1 = (second.complete text cursor limit).1 := by
  unfold complete
  cases CompletionContext.detect text cursor with
  | none => rfl
  | some context =>
      have rankedFirst := (ranked_of_faithful faithfulFirst context).1
      have rankedSecond := (ranked_of_faithful faithfulSecond context).1
      rcases isFirst : first.ranked context with ⟨outcome, after⟩
      rcases isSecond : second.ranked context with ⟨outcomeSecond, afterSecond⟩
      rw [isFirst] at rankedFirst
      rw [isSecond, ← rankedFirst] at rankedSecond
      obtain rfl : outcomeSecond = outcome := rankedSecond
      -- the limit cuts only what is the same list by now
      simp only [isFirst, isSecond, sameConfig]
      rcases outcomeSecond with cause | items
      · rfl
      · cases items <;> rfl

theorem completeValue_keeps (faithful : source.cache.Faithful) (text cursor limit : Value) :
    (source.completeValue text cursor limit).2.cache.Faithful ∧
      (source.completeValue text cursor limit).2.config = source.config := by
  unfold completeValue
  split
  · exact complete_keeps faithful
  · exact ⟨faithful, rfl⟩

theorem completeValue_congr (faithfulFirst : first.cache.Faithful)
    (faithfulSecond : second.cache.Faithful) (sameConfig : first.config = second.config)
    (text cursor limit : Value) :
    (first.completeValue text cursor limit).1 = (second.completeValue text cursor limit).1 := by
  unfold completeValue
  split
  · exact complete_congr faithfulFirst faithfulSecond sameConfig
  · rfl

theorem step_keeps (faithful : source.cache.Faithful) (action : CompletionAction) :
    (source.step action).2.cache.Faithful ∧
      (source.step action).2.config = settingsAfter source.config action := by
  cases action with
  | complete text cursor limit => exact completeValue_keeps faithful text cursor limit
  | updateSettings config => exact ⟨faithful, rfl⟩
  | clearCache => exact ⟨CompletionCache.faithful_of_nil rfl, rfl⟩

theorem run_keeps (faithful : source.cache.Faithful) (actions : List CompletionAction) :
    (source.run actions).cache.Faithful ∧
      (source.run actions).config = actions.foldl settingsAfter source.config := by
  induction actions generalizing source with
  | nil => exact ⟨faithful, rfl⟩
  | cons action rest ih =>
      obtain ⟨kept, settings⟩ := step_keeps faithful action
      have later := ih kept
      rw [settings] at later
      exact later

/-- Whatever a source with an empty cache of any capacity was asked and told before, it
answers a question like a new source with the settings that it has now. -/
theorem completeValue_run (capacity : Value)
    (cache : CompletionCache (MarkerKind × List Char))
    (made : CompletionCache.ofCapacity capacity = .ok cache) (config : MarkerConfig)
    (actions : List CompletionAction) (text cursor limit : Value) :
    let source := (⟨config, cache⟩ : CompletionSource).run actions
    let settings := actions.foldl settingsAfter config
    source.config = settings ∧
      (source.completeValue text cursor limit).1 =
        ((ofConfig settings).completeValue text cursor limit).1 := by
  intro source settings
  have nothing : cache.entries = [] := by
    rw [CompletionCache.ofCapacity] at made
    cases room : capacity.toInteger with
    | error cause => simp [room, Except.map] at made
    | ok room =>
        simp only [room, Except.map, Except.ok.injEq] at made
        rw [← made]
        rfl
  have faithfulAtFirst : (⟨config, cache⟩ : CompletionSource).cache.Faithful :=
    CompletionCache.faithful_of_nil nothing
  obtain ⟨faithful, sameConfig⟩ := run_keeps faithfulAtFirst actions
  exact ⟨sameConfig,
    completeValue_congr faithful (CompletionCache.faithful_of_nil rfl) sameConfig _ _ _⟩

/-- With room for one list, the user names take the place of the priorities, which take it
back; the last question finds them there, under other settings and another limit. -/
theorem completeValue_run_of_room_for_one :
    ∃ cache, CompletionCache.ofCapacity (.int 0) = .ok cache ∧
      let few := { MarkerConfig.standard with popupLimit := 2 }
      let source := (⟨MarkerConfig.standard, cache⟩ : CompletionSource).run
        [.complete (.text "#") .null .null, .complete (.text "call +") .null (.int 1),
          .updateSettings few, .complete (.text "by #") .null (.int 5)]
      source.cache.keys = [(.priority, [])] ∧
        (source.cache.get (.priority, []) 4).1.isSome = true ∧ source.config = few ∧
          (source.completeValue (.text "so #") (.int 4) .null).1 =
            ((ofConfig few).completeValue (.text "so #") (.int 4) .null).1 := by
  refine ⟨.empty 0, rfl, ?_, ?_, ?_⟩
  · decide +kernel
  · decide +kernel
  · exact completeValue_run (.int 0) _ rfl _ _ _ _ _

end CompletionSource

end InlineMarkers
