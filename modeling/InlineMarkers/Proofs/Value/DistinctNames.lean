import InlineMarkers.Value.Basic
import Mathlib.Data.List.Induction
import Mathlib.Data.List.Nodup

/-!
# Members with distinct names

Objects name each of their members once.  Then a member is found by its name
wherever it stands.  A value is well named when this holds of all its objects that
names lead to.
-/

namespace InlineMarkers.Members

variable {members others pairs : Members} {name other : String} {value : Value}
  {member : String × Value}

/-- No name is given twice. -/
def Distinct (members : Members) : Prop :=
  (members.map Prod.fst).Nodup

theorem get?_cons (member : String × Value) (rest : Members) (name : String) :
    get? (member :: rest) name = if member.1 = name then some member.2 else get? rest name := by
  by_cases same : member.1 = name <;> simp [get?, same]

theorem mem_of_get? (found : members.get? name = some value) : (name, value) ∈ members := by
  induction members with
  | nil => cases found
  | cons first rest ih =>
      rw [get?_cons] at found
      split at found
      case isTrue same =>
          obtain rfl := Option.some.inj found
          exact same ▸ List.mem_cons_self
      case isFalse => exact List.mem_cons_of_mem first (ih found)

theorem get?_isSome : (members.get? name).isSome = true ↔ name ∈ members.map Prod.fst := by
  induction members with
  | nil => simp
  | cons first rest ih =>
      rw [get?_cons, List.map_cons, List.mem_cons, ← ih]
      split
      case isTrue same => simp [same]
      case isFalse differs => simp [Ne.symm differs]

theorem get?_of_mem (distinct : members.Distinct) (isMember : member ∈ members) :
    members.get? member.1 = some member.2 := by
  induction members with
  | nil => cases isMember
  | cons first rest ih =>
      rw [Distinct, List.map_cons, List.nodup_cons] at distinct
      rw [get?_cons]
      rcases List.mem_cons.mp isMember with rfl | inRest
      · rw [if_pos rfl]
      · have differs : first.1 ≠ member.1 := fun same =>
          distinct.1 (same ▸ List.mem_map_of_mem inRest)
        rw [if_neg differs, ih distinct.2 inRest]

theorem get?_perm (distinct : members.Distinct) (perm : members.Perm others) (name : String) :
    others.get? name = members.get? name := by
  have distinct' : others.Distinct := (perm.map Prod.fst).nodup_iff.mp distinct
  cases found : members.get? name with
  | some value =>
      exact get?_of_mem distinct' (perm.mem_iff.mp (mem_of_get? found))
  | none =>
      rw [← Option.not_isSome_iff_eq_none, get?_isSome] at found ⊢
      rwa [← (perm.map Prod.fst).mem_iff]

theorem get?_map (change : Value → Value) (members : Members) (name : String) :
    get? (members.map fun member => (member.1, change member.2)) name =
      (members.get? name).map change := by
  induction members with
  | nil => rfl
  | cons first rest ih =>
      rw [List.map_cons, get?_cons, get?_cons, ih]
      split <;> rfl

/-! ## Setting -/

theorem mem_set (isMember : member ∈ members.set name value) :
    member ∈ members ∨ member = (name, value) := by
  induction members with
  | nil => exact .inr (List.mem_singleton.mp isMember)
  | cons first rest ih =>
      rw [set] at isMember
      split at isMember
      case isTrue same =>
          rw [beq_iff_eq.mp same] at isMember
          exact (List.mem_cons.mp isMember).symm.imp_left (List.mem_cons_of_mem first)
      case isFalse =>
          rcases List.mem_cons.mp isMember with rfl | inRest
          · exact .inl List.mem_cons_self
          · exact (ih inRest).imp_left (List.mem_cons_of_mem first)

theorem names_set (members : Members) (name : String) (value : Value) :
    (members.set name value).map Prod.fst =
      if name ∈ members.map Prod.fst then members.map Prod.fst
      else members.map Prod.fst ++ [name] := by
  induction members with
  | nil => rfl
  | cons first rest ih =>
      rw [set]
      by_cases same : first.1 = name
      · simp [same]
      · rw [if_neg (by simpa using same), List.map_cons, ih]
        simp only [List.map_cons, List.mem_cons, Ne.symm same, false_or]
        split <;> rfl

theorem Distinct.set (distinct : members.Distinct) (name : String) (value : Value) :
    (members.set name value).Distinct := by
  rw [Distinct, names_set]
  split
  case isTrue => exact distinct
  case isFalse new =>
      refine List.nodup_append.mpr ⟨distinct, List.nodup_singleton name, ?_⟩
      rintro old isOld _ isNew rfl
      exact new (List.mem_singleton.mp isNew ▸ isOld)

theorem set_get? (found : members.get? name = some value) : members.set name value = members := by
  induction members with
  | nil => cases found
  | cons first rest ih =>
      rw [get?_cons] at found
      rw [set]
      split at found
      case isTrue same =>
          obtain rfl := Option.some.inj found
          rw [if_pos (beq_iff_eq.mpr same)]
      case isFalse differs =>
          rw [if_neg (by simpa using differs), ih found]

theorem set_of_notMem (new : name ∉ members.map Prod.fst) (value : Value) :
    members.set name value = members ++ [(name, value)] := by
  induction members with
  | nil => rfl
  | cons first rest ih =>
      rw [List.map_cons, List.mem_cons, not_or] at new
      rw [set, if_neg (by simpa using Ne.symm new.1), ih new.2, List.cons_append]

/-! ## Lists of pairs -/

theorem distinct_ofList (pairs : List (String × Value)) : (ofList pairs).Distinct := by
  induction pairs using List.reverseRecOn with
  | nil => exact List.nodup_nil
  | append_singleton pairs pair ih =>
      rw [ofList, List.foldl_concat]
      exact ih.set pair.1 pair.2

theorem mem_ofList (isMember : member ∈ ofList pairs) : member ∈ pairs := by
  induction pairs using List.reverseRecOn with
  | nil => exact isMember
  | append_singleton pairs pair ih =>
      rw [ofList, List.foldl_concat] at isMember
      rcases mem_set isMember with inBefore | rfl
      · exact List.mem_append_left _ (ih inBefore)
      · exact List.mem_append_right _ List.mem_cons_self

/-- Pairs with distinct names are the members as they stand. -/
theorem ofList_of_distinct (distinct : Distinct pairs) : ofList pairs = pairs := by
  induction pairs using List.reverseRecOn with
  | nil => rfl
  | append_singleton pairs pair ih =>
      rw [Distinct, List.map_append, List.nodup_append] at distinct
      obtain ⟨before, -, apart⟩ := distinct
      have new : pair.1 ∉ pairs.map Prod.fst := fun old =>
        apart pair.1 old pair.1 (List.mem_singleton_self _) rfl
      have same := ih before
      rw [ofList] at same
      rw [ofList, List.foldl_concat, same, set_of_notMem new]

end InlineMarkers.Members

namespace InlineMarkers.Value

variable {value found : Value} {members : Members} {name : String}

def isObject : Value → Bool
  | object _ => true
  | _ => false

theorem exists_members_of_isObject (isObject : value.isObject = true) :
    ∃ members, value = .object members := by
  cases value with
  | object members => exact ⟨members, rfl⟩
  | _ => cases isObject

theorem isObject_of_member? (isMember : value.member? name = some found) :
    value.isObject = true := by
  cases value with
  | object members => rfl
  | _ => cases isMember

/-- A value in which every object that is reached by names gives each of its names once. -/
inductive WellNamed : Value → Prop
  | object {members : Members} (distinct : members.Distinct)
      (values : ∀ member ∈ members, WellNamed member.2) : WellNamed (.object members)
  | other {value : Value} (noObject : value.isObject = false) : WellNamed value

theorem wellNamed_object :
    WellNamed (object members) ↔ members.Distinct ∧ ∀ member ∈ members, WellNamed member.2 := by
  refine ⟨fun wellNamed => ?_, fun ⟨distinct, values⟩ => .object distinct values⟩
  cases wellNamed with
  | object distinct values => exact ⟨distinct, values⟩
  | other noObject => cases noObject

theorem WellNamed.member? (wellNamed : value.WellNamed)
    (isMember : value.member? name = some found) : found.WellNamed := by
  cases wellNamed with
  | object distinct values => exact values (name, found) (Members.mem_of_get? isMember)
  | other noObject =>
      rw [isObject_of_member? isMember] at noObject
      cases noObject

end InlineMarkers.Value
