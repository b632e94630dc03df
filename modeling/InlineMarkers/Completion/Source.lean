import InlineMarkers.Completion.Cache
import InlineMarkers.Completion.Context
import InlineMarkers.Completion.Ranking
import InlineMarkers.Settings.MarkerConfig

/-!
# Completing what is typed

A completion source finds the marker under the cursor and answers with the
best candidates for it, grouped by category.  It remembers ranked lists: they
depend on the kind of marker and on what is typed, and on nothing else, so a
remembered list is as good as a new one.
-/

namespace InlineMarkers

structure CompletionResult where
  kind : MarkerKind
  query : List Char
  anchorStart : Nat
  anchorStop : Nat
  items : List Candidate
  deriving DecidableEq, Repr

/-- The text that a candidate of the result puts in the place of the anchor. -/
def CompletionResult.applyText (result : CompletionResult) (candidate : Candidate) : List Char :=
  Candidate.applyText (some result.kind) candidate.value.toList

/-- What can be done with a completion source; what is to be completed may have any shape. -/
inductive CompletionAction where
  | complete (text cursor limit : Value)
  | updateSettings (config : MarkerConfig)
  | clearCache
  deriving Repr

structure CompletionSource where
  config : MarkerConfig
  cache : CompletionCache (MarkerKind × List Char)
  deriving Repr

namespace CompletionSource

/-- A source with an empty cache of the size that its settings say. -/
def ofConfig (config : MarkerConfig) : CompletionSource :=
  ⟨config, CompletionCache.empty config.cacheCapacity⟩

/-- The source with other settings; the cache stays as it is. -/
def updateSettings (source : CompletionSource) (config : MarkerConfig) : CompletionSource :=
  { source with config }

def clearCache (source : CompletionSource) : CompletionSource :=
  { source with cache := source.cache.clear }

def rankedFor (context : CompletionContext) : Except NumeralError (List Candidate) :=
  Candidate.rank (some context.kind) context.query
    (Candidate.table (some context.kind) context.query)

/-- The ranked candidates for a context, remembered or new. -/
def ranked (source : CompletionSource) (context : CompletionContext) :
    Except NumeralError (List Candidate) × CompletionSource :=
  let key := (context.kind, context.query)
  match source.cache.get key context.anchorStart with
  | (some entry, cache) => (.ok entry.items, { source with cache })
  | (none, cache) =>
      match rankedFor context with
      | .error cause => (.error cause, { source with cache })
      | .ok items =>
          (.ok items,
            { source with
              cache := cache.put key ⟨items, context.anchorStart, context.anchorStop⟩ })

/-- The candidates for the marker under the cursor, at most as many as the limit says; the
usual limit is that of the popup, and one candidate is always allowed. -/
def complete (source : CompletionSource) (text : List Char) (cursor limit : Option Int) :
    Option CompletionResult × CompletionSource :=
  match CompletionContext.detect text cursor with
  | none => (none, source)
  | some context =>
      let limit := max 1 ((limit.map Int.toNat).getD source.config.popupLimit)
      match source.ranked context with
      | (.error _, source) | (.ok [], source) => (none, source)
      | (.ok items, source) =>
          (some
            { kind := context.kind
              query := context.query
              anchorStart := context.anchorStart
              anchorStop := context.anchorStop
              items := Candidate.groupByCategory (some context.kind) (items.take limit) },
            source)

/-- An optional integer of unknown shape, where null is none. -/
def optionalInteger (value : Value) : Except NumeralError (Option Int) :=
  if value.isNull then .ok none else value.toInteger.map some

/-- The candidates for a text, a cursor and a limit of unknown shape; none if one of them
cannot be used. -/
def completeValue (source : CompletionSource) (text cursor limit : Value) :
    Option CompletionResult × CompletionSource :=
  match text, optionalInteger cursor, optionalInteger limit with
  | .text text, .ok cursor, .ok limit => source.complete text.toList cursor limit
  | _, _, _ => (none, source)

def step (source : CompletionSource) :
    CompletionAction → Option CompletionResult × CompletionSource
  | .complete text cursor limit => source.completeValue text cursor limit
  | .updateSettings config => (none, source.updateSettings config)
  | .clearCache => (none, source.clearCache)

def run (source : CompletionSource) (actions : List CompletionAction) : CompletionSource :=
  actions.foldl (fun source action => (source.step action).2) source

end CompletionSource

end InlineMarkers
