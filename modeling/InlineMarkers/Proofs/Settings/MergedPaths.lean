import InlineMarkers.Proofs.Settings.Defaults
import InlineMarkers.Proofs.Text.Separated

/-!
# Paths into merged settings

What a path leads to after settings are completed by their defaults depends on
what it leads to in the settings and in the defaults.  A value of the settings is
kept, whatever it is, and only an object takes in the members of an object that
stands for it by default.  A default is found where the settings have nothing,
unless a value that is no object stands on the way.
-/

namespace InlineMarkers

open Members

variable {value default found : Value} {path : List String} {name : String}

namespace Value

theorem atPath?_append (value : Value) (front behind : List String) :
    value.atPath? (front ++ behind) = (value.atPath? front).bind (atPath? · behind) := by
  induction front generalizing value with
  | nil => rfl
  | cons name front ih =>
      rw [List.cons_append, atPath?, atPath?]
      cases value.member? name with
      | none => rfl
      | some next => exact ih next

theorem member?_of_not_isObject (noObject : value.isObject = false) (name : String) :
    value.member? name = none := by
  cases found : value.member? name with
  | none => rfl
  | some next =>
      rw [isObject_of_member? found] at noObject
      cases noObject

/-- A value that is no object stands on the way to the end of a path. -/
def Blocks (value : Value) (path : List String) : Prop :=
  ∃ front behind found, path = front ++ behind ∧ behind ≠ [] ∧
    value.atPath? front = some found ∧ found.isObject = false

theorem atPath?_of_blocks (blocks : value.Blocks path) : value.atPath? path = none := by
  obtain ⟨front, behind, found, rfl, further, resolved, noObject⟩ := blocks
  obtain ⟨name, rest, rfl⟩ := List.exists_cons_of_ne_nil further
  rw [atPath?_append, resolved, Option.bind_some, atPath?, member?_of_not_isObject noObject,
    Option.bind_none]

theorem isObject_of_not_blocks (free : ¬value.Blocks (name :: path)) : value.isObject = true := by
  rw [← Bool.not_eq_false]
  exact fun noObject => free ⟨[], name :: path, value, rfl, List.cons_ne_nil _ _, rfl, noObject⟩

/-- What is in the way of a member's path is in the way of the longer path. -/
theorem Blocks.cons (isMember : value.member? name = some found) (blocks : found.Blocks path) :
    value.Blocks (name :: path) := by
  obtain ⟨front, behind, last, rfl, further, resolved, noObject⟩ := blocks
  refine ⟨name :: front, behind, last, rfl, further, ?_, noObject⟩
  rw [atPath?, isMember, Option.bind_some, resolved]

end Value

/-! ## One step of a path -/

namespace Members

theorem mergeValue_cases (value default : Value) :
    mergeValue value default = value ∨
      ∃ members defaults, value = .object members ∧ default = .object defaults := by
  by_cases both : ∃ members defaults, value = .object members ∧ default = .object defaults
  · exact .inr both
  · exact .inl (mergeValue_other fun members defaults isObject isObject' =>
      both ⟨members, defaults, isObject, isObject'⟩)

theorem mergeValue_of_not_isObject (noObject : value.isObject = false) (default : Value) :
    mergeValue value default = value := by
  refine (mergeValue_cases value default).resolve_right ?_
  rintro ⟨members, defaults, rfl, -⟩
  cases noObject

/-- A member of a completed value: the value's own, completed in turn, or else the default's. -/
theorem member?_mergeValue (wellNamed : default.WellNamed) (value : Value) (name : String) :
    (mergeValue value default).member? name =
      match value.member? name with
      | some found => some (((default.member? name).map (mergeValue found)).getD found)
      | none => if value.isObject then default.member? name else none := by
  cases isObject : value.isObject with
  | false =>
      rw [mergeValue_of_not_isObject isObject, Value.member?_of_not_isObject isObject]
      rfl
  | true =>
      obtain ⟨members, rfl⟩ := Value.exists_members_of_isObject isObject
      cases isObject' : default.isObject with
      | false =>
          rw [Value.member?_of_not_isObject isObject', mergeValue_other]
          · cases Value.member? (.object members) name <;> rfl
          · rintro _ defaults - rfl
            cases isObject'
      | true =>
          obtain ⟨defaults, rfl⟩ := Value.exists_members_of_isObject isObject'
          rw [mergeValue_object]
          simp only [Value.member?, get?_merge (Value.wellNamed_object.mp wellNamed).1]
          cases get? members name with
          | none => rfl
          | some found => cases get? defaults name <;> rfl

/-! ## Whole paths -/

theorem atPath?_mergeValue_of_some (wellNamed : default.WellNamed)
    (resolved : value.atPath? path = some found) :
    (mergeValue value default).atPath? path =
      some (((default.atPath? path).map (mergeValue found)).getD found) := by
  induction path generalizing value default with
  | nil =>
      obtain rfl := Option.some.inj resolved
      rfl
  | cons name path ih =>
      obtain ⟨next, isMember, further⟩ := Option.bind_eq_some_iff.mp resolved
      rw [Value.atPath?, Value.atPath?, member?_mergeValue wellNamed, isMember]
      cases isDefault : default.member? name with
      | none => exact further
      -- Below a name that both have, a completed value stands again.
      | some nextDefault => exact ih (wellNamed.member? isDefault) further

theorem atPath?_mergeValue_of_none (wellNamed : default.WellNamed)
    (unresolved : value.atPath? path = none) (free : ¬value.Blocks path) :
    (mergeValue value default).atPath? path = default.atPath? path := by
  induction path generalizing value default with
  | nil => cases unresolved
  | cons name path ih =>
      rw [Value.atPath?, Value.atPath?, member?_mergeValue wellNamed]
      cases isMember : value.member? name with
      | none => simp only [Value.isObject_of_not_blocks free, if_true]
      | some next =>
          rw [Value.atPath?, isMember, Option.bind_some] at unresolved
          cases isDefault : default.member? name with
          | none => exact unresolved
          | some nextDefault =>
              exact ih (wellNamed.member? isDefault) unresolved fun blocks =>
                free (blocks.cons isMember)

/-- What is in the way of a path is no object, so it is still there. -/
theorem blocks_mergeValue (wellNamed : default.WellNamed) (blocks : value.Blocks path) :
    (mergeValue value default).Blocks path := by
  obtain ⟨front, behind, found, rfl, further, resolved, noObject⟩ := blocks
  refine ⟨front, behind, found, rfl, further, ?_, noObject⟩
  rw [atPath?_mergeValue_of_some wellNamed resolved]
  cases default.atPath? front with
  | none => rfl
  | some other => exact congrArg some (mergeValue_of_not_isObject noObject other)

end Members

/-- Names without dots are the names of the dotted path that is written with them. -/
theorem Value.dotGet_joinFields (value fallback : Value) (filled : path ≠ [])
    (named : ∀ name ∈ path, name ≠ "" ∧ '.' ∉ name.toList) :
    value.dotGet (Text.joinFields '.' (path.map String.toList)) fallback =
      (value.atPath? path).getD fallback := by
  have cut : Text.fields '.' (Text.joinFields '.' (path.map String.toList)) =
      path.map String.toList := by
    refine Text.fields_joinFields (by simpa using filled) fun piece member => ?_
    obtain ⟨name, isName, rfl⟩ := List.mem_map.mp member
    exact (named name isName).2
  have notEmpty : (Text.joinFields '.' (path.map String.toList)).isEmpty = false := by
    rw [List.isEmpty_eq_false_iff]
    intro empty
    rw [empty] at cut
    obtain ⟨name, rest, rfl⟩ := List.exists_cons_of_ne_nil filled
    have blank : name.toList = [] := (List.cons.inj cut).1.symm
    exact (named name List.mem_cons_self).1 (String.toList_eq_nil_iff.mp blank)
  rw [dotGet, notEmpty, pathNames, cut, List.map_map]
  simp

namespace Members

/-- What stands at a path of settings stays there when they are completed by their defaults, unless
an object stands there in both; then the object is completed.  Where the settings have nothing,
their defaults are found, unless a value that is no object stands on the way, and nothing else.
Completing twice is completing once, and a dotted path leads to just these values. -/
theorem atPath?_merge (data : Members) {defaults : Members}
    (wellNamed : (Value.object defaults).WellNamed) :
    let merged := Value.object (merge data defaults)
    (∀ path value, (Value.object data).atPath? path = some value →
      merged.atPath? path = some value ∨
        ∃ members others, value = .object members ∧
          (Value.object defaults).atPath? path = some (.object others) ∧
          merged.atPath? path = some (.object (merge members others))) ∧
    (∀ path default, (Value.object data).atPath? path = none →
      (Value.object defaults).atPath? path = some default →
        (¬(Value.object data).Blocks path → merged.atPath? path = some default) ∧
        ((Value.object data).Blocks path → merged.atPath? path = none)) ∧
    (∀ path, (Value.object data).atPath? path = none →
      (Value.object defaults).atPath? path = none → merged.atPath? path = none) ∧
    merge (merge data defaults) defaults = merge data defaults ∧
    ∀ path, path ≠ [] → (∀ name ∈ path, name ≠ "" ∧ '.' ∉ name.toList) → ∀ fallback,
      merged.dotGet (Text.joinFields '.' (path.map String.toList)) fallback =
        (merged.atPath? path).getD fallback := by
  intro merged
  have isMerged : mergeValue (.object data) (.object defaults) = merged :=
    mergeValue_object data defaults
  have blocked : ∀ path, (Value.object data).Blocks path → merged.atPath? path = none := by
    intro path blocks
    rw [← isMerged]
    exact Value.atPath?_of_blocks (blocks_mergeValue wellNamed blocks)
  refine ⟨fun path value resolved => ?_, fun path default unresolved isDefault =>
    ⟨fun free => ?_, blocked path⟩, fun path unresolved noDefault => ?_, ?_,
    fun path filled named fallback => Value.dotGet_joinFields merged fallback filled named⟩
  · have kept := atPath?_mergeValue_of_some wellNamed resolved
    rw [isMerged] at kept
    cases isDefault : (Value.object defaults).atPath? path with
    | none =>
        rw [isDefault] at kept
        exact .inl kept
    | some default =>
        rw [isDefault, Option.map_some, Option.getD_some] at kept
        rcases mergeValue_cases value default with same | ⟨members, others, rfl, rfl⟩
        · rw [same] at kept
          exact .inl kept
        · rw [mergeValue_object] at kept
          exact .inr ⟨members, others, rfl, rfl, kept⟩
  · rw [← isMerged, atPath?_mergeValue_of_none wellNamed unresolved free, isDefault]
  · by_cases blocks : (Value.object data).Blocks path
    · exact blocked path blocks
    · rw [← isMerged, atPath?_mergeValue_of_none wellNamed unresolved blocks, noDefault]
  · have twice := (wellNamed.covers_mergeValue (.object data)).mergeValue_eq
    rw [mergeValue_object, mergeValue_object] at twice
    exact Value.object.inj twice

/-- Null and the empty object are kept, null is in the way of a default below it, and an object that
only the defaults have is found by its dotted path. -/
theorem atPath?_merge_of_conflicts :
    let data : Members := [("a", .object [("b", .null), ("x", .object [])]), ("e", .object [])]
    let defaults : Members :=
      [("a", .object [("b", .object [("c", .int 1)]), ("n", .object [("m", .int 3)])]),
        ("e", .int 5)]
    let merged := Value.object (merge data defaults)
    (Value.object defaults).WellNamed ∧ merged.atPath? ["e"] = some (.object []) ∧
      (Value.object data).Blocks ["a", "b", "c"] ∧ merged.atPath? ["a", "b", "c"] = none ∧
      merge (merge data defaults) defaults = merge data defaults ∧
      merged.dotGet "a.n.m".toList .null = .int 3 := by
  intro data defaults merged
  have wellNamed : (Value.object defaults).WellNamed := by
    have number (n : Int) : (Value.int n).WellNamed := .other rfl
    simp [Value.wellNamed_object, Distinct, number, defaults]
  obtain ⟨kept, filled, -, twice, dotted⟩ := atPath?_merge data wellNamed
  have blocks : (Value.object data).Blocks ["a", "b", "c"] :=
    ⟨["a", "b"], ["c"], .null, rfl, List.cons_ne_nil _ _, rfl, rfl⟩
  refine ⟨wellNamed, ?_, blocks, (filled _ (.int 1) rfl rfl).2 blocks, twice, ?_⟩
  · refine (kept ["e"] (.object []) rfl).resolve_right ?_
    rintro ⟨members, others, -, isDefault, -⟩
    cases isDefault
  · exact dotted ["a", "n", "m"] (List.cons_ne_nil _ _) (by decide) .null

end Members

end InlineMarkers
