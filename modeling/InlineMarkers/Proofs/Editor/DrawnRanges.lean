import InlineMarkers.Editor.Decoration
import InlineMarkers.Proofs.Editor.AppliedFix
import InlineMarkers.Proofs.Json.ReadValues
import InlineMarkers.Proofs.Order.StableSorting
import InlineMarkers.Proofs.Text.UnitPositions
import InlineMarkers.Proofs.Value.Attempts
import Mathlib.Data.List.Pairwise

/-!
# What is underlined

Every entry with a proper range of the text is underlined once, whatever else it
holds, and no other entry is.  The ranges are drawn by the ranks of their severities
and then by their starts, and those that are alike in both as they were given.  The
units that are underlined are those of the characters of the range.
-/

namespace InlineMarkers

open Text

theorem Value.exists_shownSeverity_iff {diagnostic : Value} :
    (∃ severity, diagnostic.shownSeverity = .ok severity) ↔
      (diagnostic.field "severity").isSpellable = true := by
  rw [← Value.exists_displayIfTrue_iff, Value.shownSeverity, Value.displayIfTrue]
  split <;> cases (diagnostic.field "severity").display <;> simp [Except.map]

namespace DecoratedRange

variable {range : DecoratedRange} {entry : DiagnosticEntry} {entries : List DiagnosticEntry}
  {length index : Nat}

/-- The range of an entry, which is a proper one of a text of some length, with the entry's
severity. -/
structure IsOf (range : DecoratedRange) (entry : DiagnosticEntry) (length : Nat) : Prop where
  start : entry.fields.integerField "start" = .ok range.start
  stop : entry.fields.integerField "end" = .ok range.stop
  ordered : range.start < range.stop
  inside : range.stop ≤ length
  severity : entry.fields.shownSeverity = .ok range.severity
  rank : range.rank = Severity.rankOfWord range.severity

theorem ofEntry?_eq_ok_some_iff :
    DecoratedRange.ofEntry? length entry = .ok (some range) ↔ range.IsOf entry length := by
  unfold DecoratedRange.ofEntry?
  constructor
  · intro made
    split at made
    case h_1 => cases made
    case h_2 start stop isRange =>
        obtain ⟨startEq, stopEq, ordered, inside⟩ := Edit.range?_eq_some_iff.mp isRange
        cases shown : entry.fields.shownSeverity with
        | error cause => simp [shown, Except.map] at made
        | ok severity =>
            rw [shown] at made
            cases made
            exact ⟨startEq, stopEq, ordered, inside, shown, rfl⟩
  · rintro ⟨startEq, stopEq, ordered, inside, isSeverity, isRank⟩
    rw [Edit.range?_eq_some_iff.mpr ⟨startEq, stopEq, ordered, inside⟩, isSeverity]
    exact congrArg (fun rank => Except.ok (some (⟨rank, _, _, _⟩ : DecoratedRange))) isRank.symm

/-- The range of an entry that is underlined, if there is one. -/
def rangeOf? (length : Nat) (entry : DiagnosticEntry) : Option DecoratedRange :=
  (DecoratedRange.ofEntry? length entry).toOption.join

theorem rangeOf?_eq_some_iff : rangeOf? length entry = some range ↔ range.IsOf entry length := by
  rw [← ofEntry?_eq_ok_some_iff, rangeOf?]
  cases DecoratedRange.ofEntry? length entry <;> simp [Except.toOption]

theorem exists_ofEntry?_iff :
    (∃ found, DecoratedRange.ofEntry? length entry = .ok found) ↔
      ((Edit.range? entry length).isSome = true →
        (entry.fields.field "severity").isSpellable = true) := by
  unfold DecoratedRange.ofEntry?
  rw [← Value.exists_shownSeverity_iff]
  cases Edit.range? entry length with
  | none => simp
  | some range => cases entry.fields.shownSeverity <;> simp [Except.map]

/-! ## The order in which ranges are drawn -/

/-- Two ranges with their places among the entries: the first one is drawn before the other. -/
def DrawnEarlier (first second : DecoratedRange × Nat) : Prop :=
  first.1.rank < second.1.rank ∨ first.1.rank = second.1.rank ∧
    (first.1.start < second.1.start ∨ first.1.start = second.1.start ∧ first.2 < second.2)

theorem drawnBefore_iff {first second : DecoratedRange} :
    drawnBefore first second = true ↔ first.rank < second.rank ∨
      first.rank = second.rank ∧ first.start ≤ second.start := by
  simp [drawnBefore]

/-- The ranges of those entries that have one, with the places of the entries. -/
def placed (length : Nat) (entries : List DiagnosticEntry) : List (DecoratedRange × Nat) :=
  entries.zipIdx.filterMap fun entry => (rangeOf? length entry.1).map (·, entry.2)

theorem map_fst_placed (length : Nat) (entries : List DiagnosticEntry) :
    (placed length entries).map Prod.fst = entries.filterMap (rangeOf? length) := by
  conv_rhs => rw [← List.zipIdx_map_fst 0 entries, List.filterMap_map]
  rw [placed, List.map_filterMap]
  refine List.filterMap_congr fun entry _ => ?_
  rw [Option.map_map, Function.comp_apply]
  exact Option.map_id' ..

theorem mem_placed_iff : (range, index) ∈ placed length entries ↔
    ∃ entry, entries[index]? = some entry ∧ range.IsOf entry length := by
  simp only [placed, List.mem_filterMap, Option.map_eq_some_iff, Prod.mk.injEq, Prod.exists,
    List.mem_zipIdx_iff_getElem?]
  constructor
  · rintro ⟨entry, _, found, _, isRange, rfl, rfl⟩
    exact ⟨entry, found, rangeOf?_eq_some_iff.mp isRange⟩
  · rintro ⟨entry, found, isOf⟩
    exact ⟨entry, index, found, range, rangeOf?_eq_some_iff.mpr isOf, rfl, rfl⟩

theorem pairwise_placed (length : Nat) (entries : List DiagnosticEntry) :
    (placed length entries).Pairwise fun first second => first.2 < second.2 := by
  have increasing : entries.zipIdx.Pairwise fun first second => first.2 < second.2 := by
    have places := List.pairwise_lt_range' (s := 0) (n := entries.length)
    rwa [← List.zipIdx_map_snd, List.pairwise_map] at places
  refine increasing.filterMap _ fun first second earlier one isOne other isOther => ?_
  obtain ⟨_, -, rfl⟩ := Option.map_eq_some_iff.mp isOne
  obtain ⟨_, -, rfl⟩ := Option.map_eq_some_iff.mp isOther
  exact earlier

/-- The placed ranges in the order in which they are drawn. -/
def drawn (length : Nat) (entries : List DiagnosticEntry) : List (DecoratedRange × Nat) :=
  (placed length entries).mergeSort fun first second => drawnBefore first.1 second.1

theorem pairwise_drawn (length : Nat) (entries : List DiagnosticEntry) :
    (drawn length entries).Pairwise DrawnEarlier := by
  have increasing := pairwise_placed length entries
  -- Entries may be alike, but their places tell them apart.
  have distinct : (placed length entries).Nodup := by
    refine increasing.imp fun {first second} earlier same => ?_
    rw [same] at earlier
    exact Nat.lt_irrefl _ earlier
  have sorted : SortedFrom (fun first second => drawnBefore second.1 first.1 = false)
      (placed length entries) (drawn length entries) := by
    refine sortedFrom_mergeSort (fun a b c ab bc => ?_) (fun a b => ?_) (fun _ _ => Iff.rfl)
      distinct
    · rw [drawnBefore_iff] at ab bc ⊢
      omega
    · rw [Bool.or_eq_true, drawnBefore_iff, drawnBefore_iff]
      omega
  refine sorted.inOrder.imp fun {first second} ordered => ?_
  rcases ordered with before | ⟨notBehind, standsBefore⟩
  · rw [← Bool.not_eq_true, drawnBefore_iff] at before
    simp only [DrawnEarlier]
    omega
  · have earlier : first.2 < second.2 :=
      List.rel_of_pairwise_cons (increasing.sublist standsBefore) List.mem_cons_self
    rw [Bool.not_eq_false, drawnBefore_iff] at notBehind
    simp only [DrawnEarlier]
    omega

end DecoratedRange

theorem Severity.rankOfWord_le (word : List Char) : rankOfWord word ≤ rank .error := by
  rw [rank_error, rankOfWord]
  split
  · exact Nat.le_refl 3
  split
  · decide
  split <;> decide

open DecoratedRange

/-- A decoration underlines just the characters of a range, in the colour of its severity. -/
structure Decoration.Shows (decoration : Decoration) (config : MarkerConfig) (text : List Char)
    (range : DecoratedRange) : Prop where
  filled : decoration.start < decoration.stop
  decoded : ofUnits (((toUnits text).drop decoration.start).take
    (decoration.stop - decoration.start)) = slice text range.start range.stop
  start : indexOfUnit text decoration.start = range.start
  stop : indexOfUnit text decoration.stop = range.stop
  color : decoration.color = config.colorFor range.severity

variable {text : List Char} {range : DecoratedRange}

theorem DecoratedRange.decorate_shows (config : MarkerConfig) (ordered : range.start < range.stop)
    (inside : range.stop ≤ text.length) : (range.decorate config text).Shows config text range where
  filled := unitOffset_lt ordered inside
  decoded := ofUnits_between (Nat.le_of_lt ordered) inside
  start := indexOfUnit_unitOffset (Nat.le_trans (Nat.le_of_lt ordered) inside)
  stop := indexOfUnit_unitOffset inside
  color := rfl

theorem eq_map_drawn_of_decorations {config : MarkerConfig} {entries : List DiagnosticEntry}
    {found : List Decoration} (made : decorations config text entries = .ok found) :
    found = (drawn text.length entries).map fun item => item.1.decorate config text := by
  obtain ⟨results, attempts, same⟩ := bind_eq_ok_iff.mp made
  obtain rfl := Except.ok.inj same
  have ranges : results.filterMap id = entries.filterMap (rangeOf? text.length) := by
    have isResult : results = entries.map (rangeOf? text.length) := by
      refine eq_map_of_mapM attempts fun entry result isResult => ?_
      rw [rangeOf?, isResult]
      rfl
    rw [isResult, List.filterMap_map]
    rfl
  have sorted : (drawn text.length entries).map Prod.fst =
      (entries.filterMap (rangeOf? text.length)).mergeSort drawnBefore := by
    rw [← map_fst_placed, drawn]
    exact List.map_mergeSort fun _ _ _ _ => rfl
  rw [ranges, ← sorted, List.map_map]
  rfl

theorem exists_decorations_iff {config : MarkerConfig} {entries : List DiagnosticEntry} :
    (∃ found, decorations config text entries = .ok found) ↔
      ∀ entry ∈ entries, (Edit.range? entry text.length).isSome = true →
        (entry.fields.field "severity").isSpellable = true := by
  simp only [← exists_ofEntry?_iff, ← exists_mapM_iff]
  constructor
  · rintro ⟨found, made⟩
    obtain ⟨results, attempts, -⟩ := bind_eq_ok_iff.mp made
    exact ⟨results, attempts⟩
  · rintro ⟨results, attempts⟩
    exact ⟨_, bind_eq_ok_iff.mpr ⟨results, attempts, rfl⟩⟩

/-- Severities of the library's own and those that JSON can spell can be displayed. -/
theorem isSpellable_severity {entry : DiagnosticEntry}
    (json : ∀ value, entry = .foreign value → value.IsJson) :
    (entry.fields.field "severity").isSpellable = true := by
  cases entry with
  | diagnostic value => rfl
  | foreign value =>
      have isJson := json value rfl
      rw [DiagnosticEntry.fields, Value.field]
      cases isField : value.member? "severity" with
      | none => rfl
      | some severity => exact (isJson.member? isField).isSpellable

end InlineMarkers
