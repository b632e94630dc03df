import InlineMarkers.Proofs.Json.ReadValues

/-!
# The order of members

Objects are the same whatever the order of their members.  Sorting the members
of all objects of a value by name gives a value that is alike in this sense.
-/

namespace InlineMarkers

/-- Two values that differ in the order of the members of their objects only. -/
inductive Value.Alike : Value → Value → Prop
  | null : Alike .null .null
  | bool (value : Bool) : Alike (.bool value) (.bool value)
  | int (value : Int) : Alike (.int value) (.int value)
  | float (value : Binary64) : Alike (.float value) (.float value)
  | text (value : String) : Alike (.text value) (.text value)
  | array {lefts rights : List Value} (length : lefts.length = rights.length)
      (items : ∀ (index : Nat) (left right : Value), lefts[index]? = some left →
        rights[index]? = some right → Alike left right) : Alike (.array lefts) (.array rights)
  | object {lefts rights : Members}
      (names : ∀ name, (lefts.get? name).isSome = (rights.get? name).isSome)
      (values : ∀ (name : String) (left right : Value), lefts.get? name = some left →
        rights.get? name = some right → Alike left right) : Alike (.object lefts) (.object rights)

namespace Members

variable {α : Type} {members : Members}

/-- Whether a name may stand before another one, with whatever belongs to them. -/
def nameOrder (left right : String × α) : Bool :=
  !decide (right.1 < left.1)

theorem nameOrder_trans (a b c : String × α) (first : nameOrder a b = true)
    (second : nameOrder b c = true) : nameOrder a c = true := by
  simp only [nameOrder, Bool.not_eq_true', decide_eq_false_iff_not, String.not_lt] at *
  exact String.le_trans first second

theorem nameOrder_total (a b : String × α) : (nameOrder a b || nameOrder b a) = true := by
  simp only [nameOrder, Bool.or_eq_true, Bool.not_eq_true', decide_eq_false_iff_not, String.not_lt]
  exact String.le_total a.1 b.1

/-- Members in the order of their names. -/
def sort (members : Members) : Members :=
  members.mergeSort nameOrder

theorem sort_perm (members : Members) : members.sort.Perm members :=
  List.mergeSort_perm members nameOrder

theorem mergeSort_map (change : Value → α) (members : Members) :
    (members.map fun member => (member.1, change member.2)).mergeSort nameOrder =
      members.sort.map fun member => (member.1, change member.2) := by
  rw [sort, List.map_mergeSort]
  exact fun _ _ _ _ => rfl

theorem sort_sort (members : Members) : members.sort.sort = members.sort :=
  List.mergeSort_of_pairwise (List.pairwise_mergeSort nameOrder_trans nameOrder_total members)

theorem Distinct.sort (distinct : members.Distinct) : members.sort.Distinct :=
  (members.sort_perm.map Prod.fst).nodup_iff.mpr distinct

theorem get?_sort (distinct : members.Distinct) (name : String) :
    members.sort.get? name = members.get? name :=
  get?_perm distinct members.sort_perm.symm name

end Members

namespace Value

mutual

/-- A value with the members of all its objects in the order of their names. -/
def sorted : Value → Value
  | array items => array (sortedItems items)
  | object members => object (sortedMembers members).sort
  | value => value
termination_by structural value => value

def sortedItems : List Value → List Value
  | [] => []
  | item :: rest => item.sorted :: sortedItems rest
termination_by structural items => items

def sortedMembers : List (String × Value) → Members
  | [] => []
  | (name, value) :: rest => (name, value.sorted) :: sortedMembers rest
termination_by structural members => members

end

theorem sortedItems_eq_map (items : List Value) : sortedItems items = items.map sorted := by
  induction items with
  | nil => rfl
  | cons item rest ih => rw [sortedItems, ih, List.map_cons]

theorem sortedMembers_eq_map (members : Members) :
    sortedMembers members = members.map fun member => (member.1, member.2.sorted) := by
  induction members with
  | nil => rfl
  | cons member rest ih => rw [sortedMembers, ih, List.map_cons]

variable {members : Members} {value : Value}

theorem sort_sortedMembers (members : Members) :
    (sortedMembers members).sort = members.sort.map fun member => (member.1, member.2.sorted) := by
  rw [sortedMembers_eq_map]
  exact Members.mergeSort_map sorted members

theorem distinct_sortedMembers (distinct : members.Distinct) :
    (sortedMembers members).Distinct := by
  rw [sortedMembers_eq_map, Members.Distinct, List.map_map]
  exact distinct

theorem get?_sort_sortedMembers (distinct : members.Distinct) (name : String) :
    (sortedMembers members).sort.get? name = (members.get? name).map sorted := by
  rw [Members.get?_sort (distinct_sortedMembers distinct), sortedMembers_eq_map, Members.get?_map]

/-- Sorting changes nothing but the order of members. -/
theorem IsJson.alike_sorted (isJson : value.IsJson) : value.sorted.Alike value := by
  induction isJson with
  | null => exact .null
  | bool value => exact .bool value
  | int => exact .int _
  | float => exact .float _
  | text value => exact .text value
  | @array items values ih =>
      rw [sorted, sortedItems_eq_map]
      refine .array (List.length_map _) fun index left right isLeft isRight => ?_
      rw [List.getElem?_map, isRight] at isLeft
      obtain rfl := Option.some.inj isLeft
      exact ih right (List.mem_of_getElem? isRight)
  | @object members distinct values ih =>
      rw [sorted]
      refine .object (fun name => ?_) fun name left right isLeft isRight => ?_
      · rw [get?_sort_sortedMembers distinct, Option.isSome_map]
      · rw [get?_sort_sortedMembers distinct, isRight] at isLeft
        obtain rfl := Option.some.inj isLeft
        exact ih (name, right) (Members.mem_of_get? isRight)

end Value

end InlineMarkers
