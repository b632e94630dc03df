import InlineMarkers.Proofs.Json.ScalarReading
import InlineMarkers.Proofs.Value.DistinctNames

/-!
# What the reader yields

Whatever a JSON text is, the value that is read from it names the members of its
objects once, has no longer integers than numerals may be, and has only the one
word for no number.
-/

namespace InlineMarkers

open Calendar

/-- A value that JSON can spell. -/
inductive Value.IsJson : Value → Prop
  | null : IsJson .null
  | bool (value : Bool) : IsJson (.bool value)
  | int {value : Int} (fits : (Nat.toDigits 10 value.natAbs).length ≤ Numeral.digitLimit) :
      IsJson (.int value)
  | float {value : Binary64} (known : value.isNaN = true → value = Binary64.notANumber) :
      IsJson (.float value)
  | text (value : String) : IsJson (.text value)
  | array {items : List Value} (values : ∀ item ∈ items, IsJson item) : IsJson (.array items)
  | object {members : Members} (distinct : members.Distinct)
      (values : ∀ member ∈ members, IsJson member.2) : IsJson (.object members)

theorem Value.IsJson.wellNamed {value : Value} (isJson : value.IsJson) : value.WellNamed := by
  induction isJson with
  | object distinct values ih => exact .object distinct ih
  | _ => exact .other rfl

/-- What JSON can spell can be written as text. -/
theorem Value.IsJson.isSpellable {value : Value} (isJson : value.IsJson) :
    value.isSpellable = true := by
  induction isJson with
  | int fits => exact decide_eq_true fits
  | array values ih => rwa [Value.isSpellable_array, List.all_eq_true]
  | object distinct values ih => rwa [Value.isSpellable_object, List.all_eq_true]
  | _ => rfl

theorem Value.IsJson.member? {value member : Value} {name : String} (isJson : value.IsJson)
    (isMember : value.member? name = some member) : member.IsJson := by
  cases isJson with
  | object distinct values => exact values _ (Members.mem_of_get? isMember)
  | _ => cases isMember

namespace Binary64

theorem isNaN_ofMagnitude (negative : Bool) {magnitude : Nat}
    (small : magnitude ≤ infinityMagnitude) : (ofMagnitude negative magnitude).isNaN = false := by
  simp only [infinityMagnitude, Nat.pow_eq] at small
  rw [isNaN, decide_eq_false_iff_not, Nat.not_lt, Binary64.magnitude, ofMagnitude]
  simp only [UInt64.toNat_ofNat', Nat.pow_eq, infinityMagnitude]
  split <;> omega

theorem isNaN_read (negative : Bool) (digits : Nat) (exponent : Int) :
    (Decimal.read negative digits exponent).isNaN = false := by
  unfold Decimal.read
  dsimp only
  split
  · exact isNaN_ofMagnitude negative (Nat.zero_le _)
  · split
    · exact isNaN_ofMagnitude negative (Nat.le_refl _)
    · exact isNaN_ofMagnitude negative (Nat.min_le_right _ _)

end Binary64

namespace Json

variable {text after : List Char} {value : Value} {items : List Value} {members : Members}

/-! ## Scalars -/

theorem wholeDigits?_ne_nil {whole : List Char}
    (read : wholeDigits? text = some (whole, after)) : whole ≠ [] := by
  unfold wholeDigits? at read
  split at read
  · cases read
    exact List.cons_ne_nil _ _
  · split at read <;> cases read
    exact List.cons_ne_nil _ _
  · cases read

theorem length_toDigits_digitsValue {digits : List Char} (filled : digits ≠ []) :
    (Nat.toDigits 10 (Text.digitsValue digits)).length ≤ digits.length :=
  (Nat.length_toDigits_le_iff (by decide) (List.length_pos_of_ne_nil filled)).mpr
    (digitsValue_lt digits)

theorem isJson_of_readNumber? {negative : Bool}
    (read : readNumber? negative text = some (value, after)) : value.IsJson := by
  rw [readNumber?, Option.bind_eq_bind, Option.bind_eq_some_iff] at read
  obtain ⟨⟨whole, afterWhole⟩, isWhole, read⟩ := read
  dsimp only at read
  split at read
  · split at read
    case isTrue => cases read
    case isFalse fits =>
        cases read
        have size : (if negative then -(Text.digitsValue whole : Int)
            else Text.digitsValue whole).natAbs = Text.digitsValue whole := by
          split <;> omega
        refine .int ?_
        rw [size]
        exact (length_toDigits_digitsValue (wholeDigits?_ne_nil isWhole)).trans (Nat.not_lt.mp fits)
  · cases read
    exact .float fun isNaN => absurd ((Binary64.isNaN_read ..).symm.trans isNaN) Bool.false_ne_true

theorem isJson_of_mem_words {entry : String × Value} (member : entry ∈ words) :
    entry.2.IsJson := by
  simp only [words, List.mem_cons, List.not_mem_nil, or_false] at member
  rcases member with rfl | rfl | rfl | rfl | rfl | rfl
  · exact .null
  · exact .bool true
  · exact .bool false
  · exact .float fun _ => rfl
  · exact .float (by decide)
  · exact .float (by decide)

theorem isJson_of_readScalar? (read : readScalar? text = some (value, after)) : value.IsJson := by
  unfold readScalar? at read
  dsimp only at read
  split at read
  case h_1 found =>
      cases read
      obtain ⟨entry, member, isWord⟩ := List.exists_of_findSome?_eq_some found
      obtain ⟨rest, -, same⟩ := Option.map_eq_some_iff.mp isWord
      exact (Prod.mk.inj same).1 ▸ isJson_of_mem_words member
  all_goals exact isJson_of_readNumber? read

/-! ## Arrays and objects -/

/-- The first item of an array is read, and then the array ends or more items are read. -/
theorem readItems?_cases {fuel : Nat}
    (read : readItems? (fuel + 1) text = some (items, after)) :
    ∃ item rest, readValue? fuel text = some (item, rest) ∧
      (items = [item] ∨ ∃ others rest, items = item :: others ∧
        readItems? fuel rest = some (others, after)) := by
  rw [readItems?, Option.bind_eq_bind, Option.bind_eq_some_iff] at read
  obtain ⟨⟨item, rest⟩, isItem, read⟩ := read
  refine ⟨item, rest, isItem, ?_⟩
  dsimp only at read
  split at read
  · rw [Option.bind_eq_bind, Option.bind_eq_some_iff] at read
    obtain ⟨⟨others, end_⟩, areOthers, read⟩ := read
    cases read
    exact .inr ⟨others, _, rfl, areOthers⟩
  · cases read
    exact .inl rfl
  · cases read

theorem readMembers?_cases {fuel : Nat}
    (read : readMembers? (fuel + 1) text = some (members, after)) :
    ∃ name value start rest, readValue? fuel start = some (value, rest) ∧
      (members = [(name, value)] ∨ ∃ others rest, members = (name, value) :: others ∧
        readMembers? fuel rest = some (others, after)) := by
  unfold readMembers? at read
  split at read
  case h_2 same =>
      cases same
      rw [Option.bind_eq_bind, Option.bind_eq_some_iff] at read
      obtain ⟨⟨name, rest⟩, -, read⟩ := read
      dsimp only at read
      split at read
      · rw [Option.bind_eq_bind, Option.bind_eq_some_iff] at read
        obtain ⟨⟨value, rest⟩, isValue, read⟩ := read
        refine ⟨name, value, _, rest, isValue, ?_⟩
        dsimp only at read
        split at read
        · rw [Option.bind_eq_bind, Option.bind_eq_some_iff] at read
          obtain ⟨⟨others, end_⟩, areOthers, read⟩ := read
          cases read
          exact .inr ⟨others, _, rfl, areOthers⟩
        · cases read
          exact .inl rfl
        · cases read
      · cases read
  all_goals cases read

/-- A value is a text, an array of items, an object of members or a scalar. -/
theorem readValue?_cases {fuel : Nat} (read : readValue? (fuel + 1) text = some (value, after)) :
    (∃ text, value = .text text) ∨
    (∃ items, value = .array items ∧
      (items = [] ∨ ∃ start, readItems? fuel start = some (items, after))) ∨
    (∃ members, value = .object (Members.ofList members) ∧
      (members = [] ∨ ∃ start, readMembers? fuel start = some (members, after))) ∨
    readScalar? text = some (value, after) := by
  unfold readValue? at read
  split at read
  case h_1 => cases read
  case h_2 =>
      rw [Option.bind_eq_bind, Option.bind_eq_some_iff] at read
      obtain ⟨⟨text, rest⟩, -, read⟩ := read
      cases read
      exact .inl ⟨text, rfl⟩
  case h_3 same =>
      cases same
      refine .inr (.inl ?_)
      split at read
      · cases read
        exact ⟨[], rfl, .inl rfl⟩
      · rw [Option.bind_eq_bind, Option.bind_eq_some_iff] at read
        obtain ⟨⟨items, rest⟩, areItems, read⟩ := read
        cases read
        exact ⟨items, rfl, .inr ⟨_, areItems⟩⟩
  case h_4 same =>
      cases same
      refine .inr (.inr (.inl ?_))
      split at read
      · cases read
        exact ⟨[], rfl, .inl rfl⟩
      · rw [Option.bind_eq_bind, Option.bind_eq_some_iff] at read
        obtain ⟨⟨members, rest⟩, areMembers, read⟩ := read
        cases read
        exact ⟨members, rfl, .inr ⟨_, areMembers⟩⟩
  case h_5 => exact .inr (.inr (.inr read))

/-- Every value that is read is one that JSON can spell, and so are the items and members that it
is read from. -/
theorem isJson_of_readValue? (fuel : Nat) :
    (∀ {text value after}, readValue? fuel text = some (value, after) → value.IsJson) ∧
    (∀ {text items after}, readItems? fuel text = some (items, after) →
      ∀ item ∈ items, item.IsJson) ∧
    (∀ {text members after}, readMembers? fuel text = some (members, after) →
      ∀ member ∈ members, member.2.IsJson) := by
  induction fuel with
  | zero => exact ⟨nofun, nofun, nofun⟩
  | succ fuel ih =>
      obtain ⟨ofValue, ofItems, ofMembers⟩ := ih
      refine ⟨fun read => ?_, fun read => ?_, fun read => ?_⟩
      · obtain ⟨text, rfl⟩ | ⟨items, rfl, inArray⟩ | ⟨members, rfl, inObject⟩ | isScalar :=
          readValue?_cases read
        · exact .text text
        · refine .array fun item isItem => ?_
          rcases inArray with rfl | ⟨start, areItems⟩
          · cases isItem
          · exact ofItems areItems item isItem
        · refine .object (Members.distinct_ofList members) fun member isMember => ?_
          have isMember := Members.mem_ofList isMember
          rcases inObject with rfl | ⟨start, areMembers⟩
          · cases isMember
          · exact ofMembers areMembers member isMember
        · exact isJson_of_readScalar? isScalar
      · obtain ⟨item, rest, isItem, rfl | ⟨others, rest, rfl, areOthers⟩⟩ := readItems?_cases read
        · exact List.forall_mem_singleton.mpr (ofValue isItem)
        · exact List.forall_mem_cons.mpr ⟨ofValue isItem, ofItems areOthers⟩
      · obtain ⟨name, value, start, rest, isValue, rfl | ⟨others, rest, rfl, areOthers⟩⟩ :=
          readMembers?_cases read
        · exact List.forall_mem_singleton.mpr (ofValue isValue)
        · exact List.forall_mem_cons.mpr ⟨ofValue isValue, ofMembers areOthers⟩

/-- What a whole text is read as is a value that JSON can spell. -/
theorem isJson_of_read? (read : read? text = some value) : value.IsJson := by
  unfold read? at read
  split at read
  case h_1 found =>
      split at read
      · cases read
        exact (isJson_of_readValue? _).1 found
      · cases read
  case h_2 => cases read

end Json

end InlineMarkers
