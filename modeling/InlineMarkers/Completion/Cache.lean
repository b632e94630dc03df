import InlineMarkers.Completion.Candidate
import InlineMarkers.Value.Numeral

/-!
# Remembering completion lists

The cache remembers the lists that were put into it last, in the order of the
puts.  A list that is put again moves to the end; reading does not move it.  A
list is only found when the anchor asked for lies within the list's own anchor.
-/

namespace InlineMarkers

structure CacheEntry where
  items : List Candidate
  anchorStart : Int
  anchorStop : Int
  deriving DecidableEq, Repr

/-- Whether an anchor lies within the anchor of an entry, both ends included. -/
def CacheEntry.covers (entry : CacheEntry) (anchor : Int) : Bool :=
  entry.anchorStart ≤ anchor && anchor ≤ entry.anchorStop

inductive CacheAction (κ : Type) where
  | put (key : κ) (entry : CacheEntry)
  | get (key : κ) (anchor : Int)
  | contains (key : κ)
  | clear
  deriving DecidableEq, Repr

inductive CacheAnswer where
  | done
  | found (entry : Option CacheEntry)
  | contained (answer : Bool)
  deriving DecidableEq, Repr

/-- Lists remembered by key, the one put first in front, and how often they were asked for. -/
structure CompletionCache (κ : Type) where
  capacity : Nat
  entries : List (κ × CacheEntry)
  hits : Nat
  misses : Nat
  deriving Repr

namespace CompletionCache

variable {κ : Type} [BEq κ]

/-- An empty cache; it has room for one list at least. -/
def empty (capacity : Nat) : CompletionCache κ :=
  ⟨max 1 capacity, [], 0, 0⟩

/-- An empty cache for a capacity of unknown shape. -/
def ofCapacity (capacity : Value) : Except NumeralError (CompletionCache κ) :=
  capacity.toInteger.map fun n => empty n.toNat

def keys (cache : CompletionCache κ) : List κ :=
  cache.entries.map (·.1)

def size (cache : CompletionCache κ) : Nat :=
  cache.entries.length

def contains (cache : CompletionCache κ) (key : κ) : Bool :=
  cache.entries.any (·.1 == key)

/-- The entry for a key, if it covers an anchor. -/
def find? (cache : CompletionCache κ) (key : κ) (anchor : Int) : Option CacheEntry :=
  ((cache.entries.find? (·.1 == key)).map (·.2)).filter (·.covers anchor)

/-- The entry for a key at an anchor; the cache counts whether there is one. -/
def get (cache : CompletionCache κ) (key : κ) (anchor : Int) :
    Option CacheEntry × CompletionCache κ :=
  match cache.find? key anchor with
  | some entry => (some entry, { cache with hits := cache.hits + 1 })
  | none => (none, { cache with misses := cache.misses + 1 })

/-- Puts an entry at the end and drops from the front what there is no room for. -/
def put (cache : CompletionCache κ) (key : κ) (entry : CacheEntry) : CompletionCache κ :=
  let entries := cache.entries.filter (fun pair => !(pair.1 == key)) ++ [(key, entry)]
  { cache with entries := entries.drop (entries.length - cache.capacity) }

/-- Forgets all entries and starts counting anew. -/
def clear (cache : CompletionCache κ) : CompletionCache κ :=
  { cache with entries := [], hits := 0, misses := 0 }

def step (cache : CompletionCache κ) : CacheAction κ → CacheAnswer × CompletionCache κ
  | .put key entry => (.done, cache.put key entry)
  | .get key anchor =>
      let (entry, cache) := cache.get key anchor
      (.found entry, cache)
  | .contains key => (.contained (cache.contains key), cache)
  | .clear => (.done, cache.clear)

def run (cache : CompletionCache κ) :
    List (CacheAction κ) → List (CacheAnswer × CompletionCache κ)
  | [] => []
  | action :: others =>
      let outcome := cache.step action
      outcome :: outcome.2.run others

end CompletionCache

end InlineMarkers
