import InlineMarkers.Proofs.Value.MemberOrder
import InlineMarkers.Settings.Merge

/-!
# Values that cover their defaults

A value covers its default when it lacks nothing that the default has, at any
depth.  Completing a value by its default makes it cover it, and a value that
covers its default already stays as it is.
-/

namespace InlineMarkers

open Value Members

variable {value default : Value} {members defaults : Members} {name : String}

/-- A value that has every member of its default, at any depth. -/
inductive Value.Covers : Value → Value → Prop
  | object {members defaults : Members}
      (has : ∀ entry ∈ defaults, (members.get? entry.1).isSome = true)
      (covers : ∀ entry ∈ defaults, ∀ value, members.get? entry.1 = some value →
        Covers value entry.2) : Covers (.object members) (.object defaults)
  | other {value default : Value}
      (notBoth : ∀ members defaults, value = .object members → default ≠ .object defaults) :
      Covers value default

namespace Members

theorem mergeValue_object (members defaults : Members) :
    mergeValue (.object members) (.object defaults) = .object (merge members defaults) := by
  rw [mergeValue]

theorem mergeValue_other
    (notBoth : ∀ members defaults, value = .object members → default ≠ .object defaults) :
    mergeValue value default = value := by
  unfold mergeValue
  split
  · exact absurd rfl (notBoth _ _ rfl)
  · rfl

theorem merge_cons (members : Members) (entry : String × Value) (rest : Members) :
    merge members (entry :: rest) =
      merge (members.set entry.1
        (((members.get? entry.1).map (mergeValue · entry.2)).getD entry.2)) rest := by
  rw [merge]
  cases members.get? entry.1 <;> rfl

/-- What stands at a name after members are completed by defaults. -/
theorem get?_merge (distinct : defaults.Distinct) (members : Members) (name : String) :
    (merge members defaults).get? name =
      match members.get? name, defaults.get? name with
      | some value, some default => some (mergeValue value default)
      | some value, none => some value
      | none, default => default := by
  induction defaults generalizing members with
  | nil =>
      rw [merge]
      cases members.get? name <;> rfl
  | cons entry rest ih =>
      rw [Distinct, List.map_cons, List.nodup_cons] at distinct
      rw [merge_cons, ih distinct.2, get?_set, get?_cons]
      by_cases same : entry.1 = name
      · have notInRest : get? rest name = none := by
          rw [← Option.not_isSome_iff_eq_none, get?_isSome, ← same]
          exact distinct.1
        rw [if_pos same, if_pos same, notInRest, same]
        cases members.get? name <;> rfl
      · rw [if_neg same, if_neg same]

end Members

/-! ## Covering the defaults -/

/-- A value that covers its default is not changed by it. -/
theorem Value.Covers.mergeValue_eq (covers : value.Covers default) :
    mergeValue value default = value := by
  induction covers with
  | other notBoth => exact mergeValue_other notBoth
  | @object members defaults has covers ih =>
      have unchanged : ∀ part : Members, part ⊆ defaults → merge members part = members := by
        intro part within
        induction part with
        | nil => rw [merge]
        | cons entry rest ihPart =>
            obtain ⟨inDefaults, restWithin⟩ := List.cons_subset.mp within
            obtain ⟨value, found⟩ := Option.isSome_iff_exists.mp (has entry inDefaults)
            rw [merge_cons, found, Option.map_some, Option.getD_some,
              ih entry inDefaults value found, set_get? found, ihPart restWithin]
      rw [mergeValue_object, unchanged defaults (List.Subset.refl defaults)]

theorem Value.WellNamed.covers_self (wellNamed : value.WellNamed) : value.Covers value := by
  induction wellNamed with
  | @object members distinct values ih =>
      refine .object (fun entry member => ?_) fun entry member value found => ?_
      · rw [get?_of_mem distinct member]
        rfl
      · rw [get?_of_mem distinct member] at found
        obtain rfl := Option.some.inj found
        exact ih entry member
  | other noObject =>
      refine .other fun members _ same => ?_
      rw [same] at noObject
      cases noObject

/-- A value that is completed by its default covers it. -/
theorem Value.WellNamed.covers_mergeValue (wellNamed : default.WellNamed) (value : Value) :
    (mergeValue value default).Covers default := by
  induction wellNamed generalizing value with
  | @object defaults distinct values ih =>
      cases value with
      | object members =>
          rw [mergeValue_object]
          refine .object (fun entry member => ?_) fun entry member value found => ?_
          · rw [get?_merge distinct, get?_of_mem distinct member]
            cases get? members entry.1 <;> rfl
          · rw [get?_merge distinct, get?_of_mem distinct member] at found
            cases present : get? members entry.1 with
            | some old =>
                rw [present] at found
                obtain rfl := Option.some.inj found
                exact ih entry member old
            | none =>
                rw [present] at found
                obtain rfl := Option.some.inj found
                exact (values entry member).covers_self
      | _ =>
          rw [mergeValue_other fun _ _ same => by cases same]
          exact .other fun _ _ => nofun
  | other noObject =>
      refine .other fun _ defaults _ same => ?_
      rw [same] at noObject
      cases noObject

theorem Value.IsJson.covers_mergeValue (isJson : default.IsJson) (value : Value) :
    (mergeValue value default).Covers default :=
  isJson.wellNamed.covers_mergeValue value

/-- Sorting the members of a value leaves what it covers. -/
theorem Value.Covers.sorted (covers : value.Covers default) (isJson : value.IsJson) :
    value.sorted.Covers default := by
  induction covers with
  | @other value default notBoth =>
      refine .other fun members defaults same => ?_
      cases value with
      | object old => exact notBoth old defaults rfl
      | _ => cases same
  | @object members defaults has covers ih =>
      obtain ⟨distinct, values⟩ : members.Distinct ∧ ∀ member ∈ members, member.2.IsJson := by
        cases isJson with
        | object distinct values => exact ⟨distinct, values⟩
      rw [Value.sorted]
      refine .object (fun entry member => ?_) fun entry member value found => ?_
      · rw [get?_sort_sortedMembers distinct, Option.isSome_map]
        exact has entry member
      · rw [get?_sort_sortedMembers distinct] at found
        obtain ⟨old, present, rfl⟩ := Option.map_eq_some_iff.mp found
        exact ih entry member old present (values (entry.1, old) (mem_of_get? present))

/-! ## Values that JSON can spell -/

theorem Value.IsJson.set (isJson : (Value.object members).IsJson) (isJson' : value.IsJson)
    (name : String) : (Value.object (members.set name value)).IsJson := by
  cases isJson with
  | object distinct values =>
      refine .object (distinct.set name value) fun member isMember => ?_
      rcases mem_set isMember with old | rfl
      · exact values member old
      · exact isJson'

theorem Value.IsJson.mergeValue (isJson : default.IsJson) {value : Value} (isJson' : value.IsJson) :
    (mergeValue value default).IsJson := by
  induction isJson generalizing value with
  | @object defaults distinct values ih =>
      have completed : ∀ part : Members, part ⊆ defaults → ∀ members : Members,
          (Value.object members).IsJson → (Value.object (merge members part)).IsJson := by
        intro part within
        induction part with
        | nil =>
            intro members isJson'
            rwa [merge]
        | cons entry rest ihPart =>
            intro members isJson'
            obtain ⟨inDefaults, restWithin⟩ := List.cons_subset.mp within
            rw [merge_cons]
            refine ihPart restWithin _ (isJson'.set ?_ entry.1)
            cases found : members.get? entry.1 with
            | some old => exact ih entry inDefaults (isJson'.member? found)
            | none => exact values entry inDefaults
      cases value with
      | object members =>
          rw [mergeValue_object]
          exact completed defaults (List.Subset.refl defaults) members isJson'
      | _ =>
          rw [mergeValue_other fun _ _ same => by cases same]
          exact isJson'
  | _ =>
      rw [mergeValue_other fun _ _ _ same => by cases same]
      exact isJson'

end InlineMarkers
