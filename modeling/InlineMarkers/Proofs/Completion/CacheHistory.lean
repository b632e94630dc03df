import InlineMarkers.Completion.Cache
import Mathlib.Data.List.Dedup
import Mathlib.Data.List.DropRight

/-!
# The history behind a cache

What a cache shows follows from the actions since it was cleared last.  Its keys
are those put last, each at the place of its last put and as many as there is
room for.  An entry is found when it was put last for such a key and covers the
anchor asked for.
-/

namespace InlineMarkers

variable {κ : Type}

namespace CacheAction

def isClear : CacheAction κ → Bool
  | .clear => true
  | _ => false

def isGet : CacheAction κ → Bool
  | .get .. => true
  | _ => false

/-- Whether an action only asks. -/
def isRead : CacheAction κ → Bool
  | .get .. | .contains _ => true
  | _ => false

/-- The key and the entry that an action puts. -/
def put? : CacheAction κ → Option (κ × CacheEntry)
  | .put key entry => some (key, entry)
  | _ => none

end CacheAction

namespace CacheHistory

/-- The actions since the last one that clears. -/
def sinceClear (history : List (CacheAction κ)) : List (CacheAction κ) :=
  history.rtakeWhile (!·.isClear)

def puts (history : List (CacheAction κ)) : List (κ × CacheEntry) :=
  (sinceClear history).filterMap CacheAction.put?

def gets (history : List (CacheAction κ)) : Nat :=
  (sinceClear history).countP CacheAction.isGet

/-- The distinct keys put, in the order of their last puts. -/
def keys [DecidableEq κ] (history : List (CacheAction κ)) : List κ :=
  ((puts history).map Prod.fst).dedup

/-- The keys put last, as many as there is room for. -/
def kept [DecidableEq κ] (room : Nat) (history : List (CacheAction κ)) : List κ :=
  (keys history).rtake room

/-- The entry put last for a key. -/
def latest? [BEq κ] (history : List (CacheAction κ)) (key : κ) : Option CacheEntry :=
  (puts history).reverse.lookup key

theorem puts_concat (history : List (CacheAction κ)) (action : CacheAction κ) :
    puts (history ++ [action]) =
      match action with
      | .put key entry => puts history ++ [(key, entry)]
      | .clear => []
      | _ => puts history := by
  cases action <;> simp [puts, sinceClear, CacheAction.isClear, CacheAction.put?]

theorem gets_concat (history : List (CacheAction κ)) (action : CacheAction κ) :
    gets (history ++ [action]) =
      match action with
      | .get .. => gets history + 1
      | .clear => 0
      | _ => gets history := by
  cases action <;> simp [gets, sinceClear, CacheAction.isClear, CacheAction.isGet]

end CacheHistory

/-! ## Keys put again -/

section Lists

variable {α : Type} [DecidableEq α]

theorem dedup_concat (xs : List α) (x : α) :
    (xs ++ [x]).dedup = xs.dedup.filter (fun y => y ≠ x) ++ [x] := by
  induction xs with
  | nil => rfl
  | cons first rest ih =>
      by_cases later : first ∈ rest
      · rw [List.cons_append, List.dedup_cons_of_mem (List.mem_append_left _ later), ih,
          List.dedup_cons_of_mem later]
      · by_cases same : first = x
        · subst same
          rw [List.cons_append, List.dedup_cons_of_mem (by simp), ih,
            List.dedup_cons_of_notMem later, List.filter_cons_of_neg (by simp)]
        · rw [List.cons_append, List.dedup_cons_of_notMem (by simp [later, same]), ih,
            List.dedup_cons_of_notMem later, List.filter_cons_of_pos (by simp [same]),
            List.cons_append]

/-- Of the last elements without one that may be among them, the last ones are those of the
whole list without it. -/
theorem rtake_filter_ne {xs : List α} (distinct : xs.Nodup) (x : α) (n : Nat) :
    ((xs.rtake (n + 1)).filter (fun y => y ≠ x)).rtake n =
      (xs.filter fun y => y ≠ x).rtake n := by
  induction xs using List.reverseRecOn generalizing n with
  | nil => simp
  | append_singleton xs last ih =>
      obtain ⟨distinctBefore, -, apart⟩ := List.nodup_append.mp distinct
      -- if the last element is the one to go, it cannot be among those before it
      by_cases same : last = x
      · subst same
        have absent : ∀ y ∈ xs, y ≠ last := fun y member => apart y member last (by simp)
        have keep : ∀ ys : List α, (∀ y ∈ ys, y ∈ xs) → ys.filter (fun y => y ≠ last) = ys := by
          intro ys inside
          exact List.filter_eq_self.mpr fun y member => by simp [absent y (inside y member)]
        rw [List.rtake_concat_succ, List.filter_append, List.filter_append, keep xs fun _ => id,
          keep (xs.rtake n) fun y member => List.mem_of_mem_drop member]
        simp [List.rtake_eq_reverse_take_reverse, List.take_take]
      · rw [List.rtake_concat_succ, List.filter_append, List.filter_append,
          List.filter_cons_of_pos (by simp [same]), List.filter_nil]
        cases n with
        | zero => simp
        | succ n => rw [List.rtake_concat_succ, List.rtake_concat_succ, ih distinctBefore]

end Lists

namespace CompletionCache

variable [BEq κ] {cache : CompletionCache κ} {history : List (CacheAction κ)} {room : Nat}

/-- The cache after some actions. -/
def after (cache : CompletionCache κ) (history : List (CacheAction κ)) : CompletionCache κ :=
  history.foldl (fun cache action => (cache.step action).2) cache

theorem after_concat (cache : CompletionCache κ) (history : List (CacheAction κ))
    (action : CacheAction κ) :
    cache.after (history ++ [action]) = ((cache.after history).step action).2 := by
  simp only [after, List.foldl_append, List.foldl_cons, List.foldl_nil]

/-- A run answers each action from the cache after the actions before it. -/
theorem run_concat (cache : CompletionCache κ) (history : List (CacheAction κ))
    (action : CacheAction κ) :
    cache.run (history ++ [action]) = cache.run history ++ [(cache.after history).step action] := by
  induction history generalizing cache with
  | nil => rfl
  | cons first rest ih =>
      rw [List.cons_append, run, run, ih, List.cons_append]
      rfl

theorem get_fst (cache : CompletionCache κ) (key : κ) (anchor : Int) :
    (cache.get key anchor).1 = cache.find? key anchor := by
  rw [get]
  split <;> simp [*]

theorem keys_get (cache : CompletionCache κ) (key : κ) (anchor : Int) :
    (cache.get key anchor).2.keys = cache.keys := by
  rw [get]
  split <;> rfl

theorem keys_of_isRead {action : CacheAction κ} (isRead : action.isRead = true) :
    (cache.step action).2.keys = cache.keys := by
  cases action with
  | put key entry => simp [CacheAction.isRead] at isRead
  | get key anchor => exact keys_get cache key anchor
  | contains key => rfl
  | clear => simp [CacheAction.isRead] at isRead

section Keys

variable [LawfulBEq κ]

theorem contains_iff (cache : CompletionCache κ) (key : κ) :
    cache.contains key = true ↔ key ∈ cache.keys := by
  simp [contains, keys]

theorem mem_entries_put {pair : κ × CacheEntry} {key : κ} {entry : CacheEntry}
    (member : pair ∈ (cache.put key entry).entries) :
    (pair ∈ cache.entries ∧ pair.1 ≠ key) ∨ pair = (key, entry) := by
  have inside := List.mem_of_mem_drop member
  rw [List.mem_append, List.mem_filter, List.mem_singleton] at inside
  simpa using inside

theorem keys_put [DecidableEq κ] (cache : CompletionCache κ) (key : κ) (entry : CacheEntry) :
    (cache.put key entry).keys =
      (cache.keys.filter (fun other => other ≠ key) ++ [key]).rtake cache.capacity := by
  have others : (cache.entries.filter fun pair => !(pair.1 == key)).map Prod.fst =
      cache.keys.filter fun other => other ≠ key := by
    rw [keys, List.filter_map]
    congr 2
    funext pair
    rw [Bool.eq_iff_iff]
    simp
  rw [keys, put, List.map_drop, List.rtake, ← others]
  simp

end Keys

variable [DecidableEq κ]

/-- A cache that shows what a history left in it. -/
structure Follows (room : Nat) (history : List (CacheAction κ)) (cache : CompletionCache κ) :
    Prop where
  capacity_eq : cache.capacity = room
  keys_eq : cache.keys = CacheHistory.kept room history
  latest : ∀ pair ∈ cache.entries, CacheHistory.latest? history pair.1 = some pair.2
  asked : cache.hits + cache.misses = CacheHistory.gets history

namespace Follows

theorem start (room : Nat) : Follows (max 1 room) [] (empty room : CompletionCache κ) where
  capacity_eq := rfl
  keys_eq := (List.rtake_nil _).symm
  latest := fun _ member => absurd member List.not_mem_nil
  asked := rfl

theorem size_le (follows : Follows room history cache) : cache.size ≤ room := by
  have counted : cache.size = cache.keys.length := (List.length_map _).symm
  rw [counted, follows.keys_eq, CacheHistory.kept, List.rtake, List.length_drop]
  omega

/-- An action that puts nothing and takes nothing out only counts. -/
theorem ask {next : CompletionCache κ} {later : List (CacheAction κ)}
    (follows : Follows room history cache) (sameCapacity : next.capacity = cache.capacity)
    (sameEntries : next.entries = cache.entries)
    (samePuts : CacheHistory.puts later = CacheHistory.puts history)
    (asked : next.hits + next.misses = CacheHistory.gets later) : Follows room later next where
  capacity_eq := sameCapacity.trans follows.capacity_eq
  keys_eq := by
    rw [keys, sameEntries, CacheHistory.kept, CacheHistory.keys, samePuts]
    exact follows.keys_eq
  latest := by
    rw [sameEntries]
    intro pair member
    rw [CacheHistory.latest?, samePuts]
    exact follows.latest pair member
  asked := asked

theorem get (follows : Follows room history cache) (key : κ) (anchor : Int) :
    Follows room (history ++ [.get key anchor]) (cache.get key anchor).2 := by
  have asked := follows.asked
  rw [CompletionCache.get]
  split
  · refine follows.ask rfl rfl (CacheHistory.puts_concat history _) ?_
    simp only [CacheHistory.gets_concat]
    omega
  · refine follows.ask rfl rfl (CacheHistory.puts_concat history _) ?_
    simp only [CacheHistory.gets_concat]
    omega

theorem clear (follows : Follows room history cache) :
    Follows room (history ++ [.clear]) cache.clear where
  capacity_eq := follows.capacity_eq
  keys_eq := by
    rw [CacheHistory.kept, CacheHistory.keys, CacheHistory.puts_concat]
    exact (List.rtake_nil room).symm
  latest := fun _ member => absurd member List.not_mem_nil
  asked := (CacheHistory.gets_concat history .clear).symm

variable [LawfulBEq κ]

theorem put (follows : Follows room history cache) (filled : 1 ≤ room) (key : κ)
    (entry : CacheEntry) : Follows room (history ++ [.put key entry]) (cache.put key entry) where
  capacity_eq := follows.capacity_eq
  keys_eq := by
    obtain ⟨rest, rfl⟩ := Nat.exists_eq_add_of_le' filled
    have distinct : (CacheHistory.keys history).Nodup := List.nodup_dedup _
    have moved : CacheHistory.keys (history ++ [.put key entry]) =
        (CacheHistory.keys history).filter (fun other => other ≠ key) ++ [key] := by
      rw [CacheHistory.keys, CacheHistory.puts_concat, List.map_append, List.map_singleton,
        dedup_concat]
      rfl
    -- the key moves to the end of the kept keys, or of all keys: what stays is the same
    rw [keys_put, follows.capacity_eq, follows.keys_eq, CacheHistory.kept, CacheHistory.kept,
      moved, List.rtake_concat_succ, List.rtake_concat_succ, rtake_filter_ne distinct]
  latest := by
    intro pair member
    rw [CacheHistory.latest?, CacheHistory.puts_concat, List.reverse_concat, List.lookup_cons]
    rcases mem_entries_put member with ⟨before, other⟩ | rfl
    · rw [beq_false_of_ne other]
      exact follows.latest pair before
    · rw [beq_self_eq_true]
  asked := by
    rw [CacheHistory.gets_concat]
    exact follows.asked

theorem step (follows : Follows room history cache) (filled : 1 ≤ room) (action : CacheAction κ) :
    Follows room (history ++ [action]) (cache.step action).2 := by
  cases action with
  | put key entry => exact follows.put filled key entry
  | get key anchor => exact follows.get key anchor
  | contains key =>
      refine follows.ask rfl rfl (CacheHistory.puts_concat history _) ?_
      rw [CacheHistory.gets_concat]
      exact follows.asked
  | clear => exact follows.clear

/-- A cache that was empty at first follows its history. -/
theorem after (room : Nat) (history : List (CacheAction κ)) :
    Follows (max 1 room) history ((empty room : CompletionCache κ).after history) := by
  induction history using List.reverseRecOn with
  | nil => exact start room
  | append_singleton history action ih =>
      rw [after_concat]
      exact ih.step (Nat.le_max_left 1 room) action

theorem find?_eq_some (follows : Follows room history cache) (key : κ) (anchor : Int)
    (entry : CacheEntry) :
    cache.find? key anchor = some entry ↔
      key ∈ CacheHistory.kept room history ∧ CacheHistory.latest? history key = some entry ∧
        entry.anchorStart ≤ anchor ∧ anchor ≤ entry.anchorStop := by
  rw [← follows.keys_eq, find?]
  cases found : cache.entries.find? (·.1 == key) with
  | none =>
      have absent : key ∉ cache.keys := by
        rw [keys, List.mem_map]
        rintro ⟨pair, member, rfl⟩
        simpa using List.find?_eq_none.mp found pair member
      simp [absent]
  | some pair =>
      have member := List.mem_of_find?_eq_some found
      obtain rfl : pair.1 = key := by simpa using List.find?_some found
      have present : pair.1 ∈ cache.keys := List.mem_map_of_mem member
      rw [follows.latest pair member]
      simp only [Option.map_some, Option.filter_eq_some_iff, Option.some.injEq, present, true_and,
        CacheEntry.covers, Bool.and_eq_true, decide_eq_true_eq]

end Follows

/-- A cache shows its history, whatever capacity it was made with.  The keys are those put
last, each at the place of its last put; an entry is found when it was put last for one of
them and covers the anchor; asking does not change the keys; and every question is counted as
a hit or as a miss. -/
theorem shows_history [LawfulBEq κ] (capacity : Value) (room : Int)
    (counts : capacity.toInteger = .ok room) :
    ∃ empty : CompletionCache κ, ofCapacity capacity = .ok empty ∧
      ∀ history : List (CacheAction κ),
        let cache := empty.after history
        let kept := CacheHistory.kept (max 1 room.toNat) history
        cache.keys = kept ∧
        (∀ key anchor entry, (cache.get key anchor).1 = some entry ↔
          key ∈ kept ∧ CacheHistory.latest? history key = some entry ∧
            entry.anchorStart ≤ anchor ∧ anchor ≤ entry.anchorStop) ∧
        (∀ key, cache.contains key = true ↔ key ∈ kept) ∧
        (∀ action, action.isRead = true → (cache.step action).2.keys = cache.keys) ∧
        cache.size ≤ max 1 room.toNat ∧
        cache.hits + cache.misses = CacheHistory.gets history ∧
        ∀ action, empty.run (history ++ [action]) = empty.run history ++ [cache.step action] := by
  refine ⟨empty room.toNat, by rw [ofCapacity, counts]; rfl, fun history => ?_⟩
  have follows := Follows.after (κ := κ) room.toNat history
  refine ⟨follows.keys_eq, ?_, ?_, ?_, follows.size_le, follows.asked, ?_⟩
  · intro key anchor entry
    rw [get_fst, follows.find?_eq_some]
  · intro key
    rw [contains_iff, follows.keys_eq]
  · intro action isRead
    exact keys_of_isRead isRead
  · exact run_concat _ history

/-- With room for two lists, one that is put again stays when the next one comes, and the one
put between goes. -/
theorem shows_history_of_two :
    (Value.int 2).toInteger = .ok 2 ∧
    ∃ empty : CompletionCache (String × String), ofCapacity (.int 2) = .ok empty ∧
      let cache := empty.after
        [.put ("tag", "a") ⟨[], 1, 2⟩, .put ("tag", "b") ⟨[], 1, 2⟩, .get ("tag", "a") 9,
          .put ("tag", "a") ⟨[], 4, 6⟩, .put ("date", "a") ⟨[], 1, 1⟩]
      cache.keys = [("tag", "a"), ("date", "a")] ∧
      (cache.get ("tag", "a") 5).1 = some ⟨[], 4, 6⟩ ∧
      cache.hits + cache.misses = 1 := by
  obtain ⟨empty, made, shows⟩ := shows_history (κ := String × String) (.int 2) 2 rfl
  refine ⟨rfl, empty, made, ?_⟩
  obtain ⟨keys, found, -, -, -, asked, -⟩ := shows
    [.put ("tag", "a") ⟨[], 1, 2⟩, .put ("tag", "b") ⟨[], 1, 2⟩, .get ("tag", "a") 9,
      .put ("tag", "a") ⟨[], 4, 6⟩, .put ("date", "a") ⟨[], 1, 1⟩]
  refine ⟨keys.trans (by decide), (found _ _ _).mpr ?_, asked⟩
  decide

end CompletionCache

end InlineMarkers
