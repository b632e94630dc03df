import InlineMarkers.Proofs.Json.TextReading
import InlineMarkers.Proofs.Value.MemberOrder

/-!
# Written values are read back

What is written for a value is read back as that value with the members of its
objects in the order of their names.  The order in which they were given leaves
no trace in the text.
-/

namespace InlineMarkers.Json

variable {depth fuel : Nat} {text line rest : List Char} {value : Value} {members : Members}

/-! ## Lines -/

theorem writeItems_eq_map (depth : Nat) (items : List Value) :
    writeItems depth items = items.map (writeAt depth) := by
  induction items with
  | nil => rfl
  | cons item rest ih => rw [writeItems, ih, List.map_cons]

theorem writeMembers_eq_map (depth : Nat) (members : Members) :
    writeMembers depth members = members.map fun member => (member.1, writeAt depth member.2) := by
  induction members with
  | nil => rfl
  | cons member rest ih => rw [writeMembers, ih, List.map_cons]

/-- The line of a member. -/
def memberLine (depth : Nat) (member : String × Value) : List Char :=
  writeText member.1.toList ++ ':' :: ' ' :: writeAt depth member.2

theorem writeAt_array (depth : Nat) (items : List Value) :
    writeAt depth (.array items) = enclosed '[' ']' depth (items.map (writeAt (depth + 1))) := by
  rw [writeAt, writeItems_eq_map]

theorem writeAt_object (depth : Nat) (members : Members) :
    writeAt depth (.object members) =
      enclosed '{' '}' depth (members.sort.map (memberLine (depth + 1))) := by
  have sorted : sortByName (writeMembers (depth + 1) members) =
      members.sort.map fun member => (member.1, writeAt (depth + 1) member.2) := by
    rw [writeMembers_eq_map]
    exact Members.mergeSort_map (writeAt (depth + 1)) members
  rw [writeAt, sorted, List.map_map]
  rfl

/-- Members that are in order already are written the same. -/
theorem writeAt_sorted (isJson : value.IsJson) (depth : Nat) :
    writeAt depth value.sorted = writeAt depth value := by
  induction isJson generalizing depth with
  | @array items values ih =>
      rw [Value.sorted, writeAt_array, writeAt_array, Value.sortedItems_eq_map, List.map_map]
      exact congrArg _ (List.map_congr_left fun item member => ih item member (depth + 1))
  | @object members distinct values ih =>
      have sorted : (Value.sortedMembers members).sort.sort =
          members.sort.map fun member => (member.1, member.2.sorted) := by
        rw [Members.sort_sort, Value.sort_sortedMembers]
      rw [Value.sorted, writeAt_object, writeAt_object, sorted, List.map_map]
      refine congrArg _ (List.map_congr_left fun member isMember => ?_)
      have isMember := members.sort_perm.mem_iff.mp isMember
      exact congrArg (writeText member.1.toList ++ ':' :: ' ' :: ·) (ih member isMember (depth + 1))
  | _ => rfl

/-! ## Blanks -/

/-- A text whose first character is neither a blank nor a closing bracket. -/
def BeginsValue (text : List Char) : Prop :=
  ∃ c rest, text = c :: rest ∧ isSpace c = false ∧ c ≠ ']' ∧ c ≠ '}'

theorem skipSpaces_begins (begins : BeginsValue text) (rest : List Char) :
    skipSpaces (text ++ rest) = text ++ rest := by
  obtain ⟨c, others, rfl, solid, -⟩ := begins
  rw [List.cons_append, skipSpaces, List.dropWhile_cons_of_neg (by simp [solid])]

theorem BeginsValue.append (begins : BeginsValue text) (rest : List Char) :
    BeginsValue (text ++ rest) := by
  obtain ⟨c, others, rfl, first⟩ := begins
  exact ⟨c, others ++ rest, rfl, first⟩

theorem skipSpaces_newLine (depth : Nat) (rest : List Char) :
    skipSpaces (newLine depth ++ rest) = skipSpaces rest := by
  have inside : ∀ c ∈ newLine depth, isSpace c = true := by
    intro c member
    rcases List.mem_cons.mp member with rfl | blank
    · rfl
    · rw [List.eq_of_mem_replicate blank]
      rfl
  exact List.dropWhile_append_of_pos inside

theorem endsNumber_newLine (depth : Nat) (rest : List Char) :
    EndsNumber (newLine depth ++ rest) := by
  intro c first
  obtain rfl := Option.some.inj first
  decide

theorem endsNumber_comma (rest : List Char) : EndsNumber (',' :: rest) := by
  intro c first
  obtain rfl := Option.some.inj first
  decide

/-! ## Values -/

/-- What is written for a value is read back with its members in order, whatever follows. -/
structure ReadsBack (value : Value) : Prop where
  begins : ∀ depth, BeginsValue (writeAt depth value)
  read : ∀ {depth fuel rest}, EndsNumber rest → (writeAt depth value).length < fuel →
    readValue? fuel (writeAt depth value ++ rest) = some (value.sorted, rest)

theorem readsBack_scalar (unchanged : value.sorted = value)
    (written : ∀ depth, writeAt depth value = text)
    (scalar : ∀ {rest}, EndsNumber rest → readScalar? (text ++ rest) = some (value, rest)) :
    ReadsBack value := by
  have atEnd : EndsNumber [] := nofun
  obtain ⟨c, others, shape, solid, plain⟩ := beginsScalar_of_readScalar? (scalar atEnd)
  rw [List.append_nil] at shape
  subst shape
  constructor
  · intro depth
    refine ⟨c, others, written depth, solid, ?_, ?_⟩ <;> rintro rfl <;> simp at plain
  · intro depth fuel rest ends enough
    rw [written] at enough ⊢
    cases fuel with
    | zero => cases enough
    | succ fuel =>
        rw [List.cons_append, readValue?, ← List.cons_append, scalar ends, unchanged]
        all_goals
          intro _ same
          cases same
          simp at plain

theorem writeText_append (text rest : List Char) :
    writeText text ++ rest = '"' :: (text.flatMap writeCharacter ++ '"' :: rest) := by
  rw [writeText, List.cons_append, List.append_assoc, List.singleton_append]

theorem readsBack_text (value : String) : ReadsBack (.text value) where
  begins := fun _ => ⟨'"', _, rfl, rfl, by decide, by decide⟩
  read := by
    intro depth fuel rest _ enough
    cases fuel with
    | zero => cases enough
    | succ fuel =>
        rw [writeAt, writeText_append, readValue?, readText?_written]
        rfl

/-! ## Arrays and objects -/

/-- How a reader of lines, one for each entry, takes the line of an entry: another line follows
behind a comma, or the closing bracket follows. -/
structure TakesLine {β : Type} (read : Nat → List Char → Option (List β × List Char))
    (closing : Char) (line : List Char) (result : β) : Prop where
  begins : BeginsValue line
  more : ∀ {fuel others}, line.length < fuel →
    read (fuel + 1) (line ++ ',' :: others) =
      (read fuel (skipSpaces others)).map fun (found, after) => (result :: found, after)
  last : ∀ {fuel after rest}, line.length < fuel → EndsNumber after →
    skipSpaces after = closing :: rest → read (fuel + 1) (line ++ after) = some ([result], rest)

/-- The entries are read from their lines, if each line is taken. -/
theorem read_joinLines {α β : Type} {read : Nat → List Char → Option (List β × List Char)}
    {closing : Char} (line : α → List Char) (result : α → β) {entry : α} {entries : List α}
    {after : List Char}
    (takes : ∀ x ∈ entry :: entries, TakesLine read closing (line x) (result x))
    (enough : (joinLines depth ((entry :: entries).map line)).length < fuel)
    (closes : skipSpaces after = closing :: rest) (ends : EndsNumber after) :
    read fuel (skipSpaces (joinLines depth ((entry :: entries).map line) ++ after)) =
      some ((entry :: entries).map result, rest) := by
  induction entries generalizing entry fuel with
  | nil =>
      obtain ⟨begins, -, last⟩ := takes entry List.mem_cons_self
      rw [List.map_singleton, joinLines, List.append_assoc, skipSpaces_newLine,
        skipSpaces_begins begins]
      rw [List.map_singleton, joinLines, newLine, List.cons_append, List.length_cons,
        List.length_append] at enough
      obtain ⟨fuel, rfl⟩ := Nat.exists_eq_succ_of_ne_zero (Nat.ne_zero_of_lt enough)
      exact last (by omega) ends closes
  | cons next entries ih =>
      obtain ⟨begins, more, -⟩ := takes entry List.mem_cons_self
      have lines : joinLines depth ((entry :: next :: entries).map line) =
          newLine depth ++ line entry ++ ',' :: joinLines depth ((next :: entries).map line) := rfl
      rw [lines, newLine, List.cons_append, List.cons_append, List.length_cons, List.length_append,
        List.length_append, List.length_cons] at enough
      obtain ⟨fuel, rfl⟩ := Nat.exists_eq_succ_of_ne_zero (Nat.ne_zero_of_lt enough)
      rw [lines, List.append_assoc, List.append_assoc, skipSpaces_newLine, skipSpaces_begins begins,
        List.cons_append, more (by omega),
        ih (fun x member => takes x (List.mem_cons_of_mem entry member)) (by omega)]
      rfl

theorem skipSpaces_comma (rest : List Char) : skipSpaces (',' :: rest) = ',' :: rest := rfl

theorem takesLine_item (readsBack : ReadsBack value) (depth : Nat) :
    TakesLine readItems? ']' (writeAt depth value) value.sorted where
  begins := readsBack.begins depth
  more := by
    intro fuel others enough
    rw [readItems?, readsBack.read (endsNumber_comma others) enough]
    simp only [Option.bind_eq_bind, Option.bind_some, skipSpaces_comma]
    cases readItems? fuel (skipSpaces others) <;> rfl
  last := by
    intro fuel after rest enough ends closes
    rw [readItems?, readsBack.read ends enough]
    simp only [Option.bind_eq_bind, Option.bind_some, closes]
    rfl

/-- The name and the value of a member are read from its line. -/
theorem readMembers?_memberLine {member : String × Value} {after : List Char}
    (readsBack : ReadsBack member.2) (enough : (memberLine depth member).length < fuel)
    (ends : EndsNumber after) :
    readMembers? (fuel + 1) (memberLine depth member ++ after) =
      match skipSpaces after with
      | ',' :: rest => (readMembers? fuel (skipSpaces rest)).map fun (found, after) =>
          ((member.1, member.2.sorted) :: found, after)
      | '}' :: rest => some ([(member.1, member.2.sorted)], rest)
      | _ => none := by
  rw [memberLine, List.length_append, List.length_cons, List.length_cons] at enough
  have value := readsBack.read ends (by omega : (writeAt depth member.2).length < fuel)
  have colon : ∀ text, skipSpaces (':' :: text) = ':' :: text := fun _ => rfl
  have blank : skipSpaces (' ' :: (writeAt depth member.2 ++ after)) =
      writeAt depth member.2 ++ after :=
    skipSpaces_begins (readsBack.begins depth) after
  rw [memberLine, List.append_assoc, writeText_append, readMembers?, readText?_written,
    Option.bind_eq_bind, Option.bind_some]
  simp only [List.cons_append, colon, blank, value, Option.bind_eq_bind, Option.bind_some,
    Option.map_eq_bind]
  rfl

theorem takesLine_member {member : String × Value} (readsBack : ReadsBack member.2) (depth : Nat) :
    TakesLine readMembers? '}' (memberLine depth member) (member.1, member.2.sorted) where
  begins := ⟨'"', _, rfl, rfl, by decide, by decide⟩
  more := fun enough => by rw [readMembers?_memberLine readsBack enough (endsNumber_comma _)]; rfl
  last := fun enough ends closes => by
    rw [readMembers?_memberLine readsBack enough ends, closes]
    rfl

theorem closes_newLine (depth : Nat) {closing : Char} (solid : isSpace closing = false)
    (rest : List Char) :
    skipSpaces (newLine depth ++ closing :: rest) = closing :: rest := by
  rw [skipSpaces_newLine, skipSpaces, List.dropWhile_cons_of_neg (by simp [solid])]

/-- The lines between two brackets. -/
theorem enclosed_cons (opening closing : Char) (depth : Nat) (line : List Char)
    (lines : List (List Char)) :
    enclosed opening closing depth (line :: lines) =
      opening :: (joinLines (depth + 1) (line :: lines) ++ (newLine depth ++ [closing])) :=
  congrArg (opening :: ·) (List.append_assoc ..)

theorem beginsValue_enclosed {opening closing : Char} (solid : isSpace opening = false)
    (opens : opening ≠ ']' ∧ opening ≠ '}') (lines : List (List Char)) :
    BeginsValue (enclosed opening closing depth lines) := by
  cases lines <;> exact ⟨opening, _, rfl, solid, opens⟩

theorem exists_joinLines_cons (depth : Nat) (line : List Char) (lines : List (List Char)) :
    ∃ more, joinLines depth (line :: lines) = newLine depth ++ (line ++ more) := by
  cases lines with
  | nil => exact ⟨[], by rw [joinLines, List.append_nil]⟩
  | cons next lines => exact ⟨_, List.append_assoc ..⟩

theorem beginsValue_joinLines (begins : BeginsValue line) (lines : List (List Char))
    (after : List Char) :
    BeginsValue (skipSpaces (joinLines depth (line :: lines) ++ after)) := by
  obtain ⟨more, shape⟩ := exists_joinLines_cons depth line lines
  rw [shape, List.append_assoc, List.append_assoc, skipSpaces_newLine, skipSpaces_begins begins]
  exact begins.append _

theorem readValue?_items (begins : BeginsValue (skipSpaces text)) :
    readValue? (fuel + 1) ('[' :: text) =
      (readItems? fuel (skipSpaces text)).map fun (items, after) => (.array items, after) := by
  obtain ⟨c, others, skipped, -, notClosing, -⟩ := begins
  rw [readValue?, skipped, Option.map_eq_bind]
  split
  case h_1 same =>
      cases same
      exact absurd rfl notClosing
  case h_2 => rfl

theorem readValue?_members (begins : BeginsValue (skipSpaces text)) :
    readValue? (fuel + 1) ('{' :: text) =
      (readMembers? fuel (skipSpaces text)).map
        fun (members, after) => (.object (Members.ofList members), after) := by
  obtain ⟨c, others, skipped, -, -, notClosing⟩ := begins
  rw [readValue?, skipped, Option.map_eq_bind]
  split
  case h_1 same =>
      cases same
      exact absurd rfl notClosing
  case h_2 => rfl

theorem length_joinLines_lt {opening closing : Char} {lines : List (List Char)}
    (enough : (enclosed opening closing depth (line :: lines)).length < fuel + 1) :
    (joinLines (depth + 1) (line :: lines)).length < fuel := by
  rw [enclosed_cons, List.length_cons, List.length_append, List.length_append,
    List.length_singleton] at enough
  omega

theorem readsBack_array {items : List Value} (readsBack : ∀ item ∈ items, ReadsBack item) :
    ReadsBack (.array items) where
  begins := fun depth => by
    rw [writeAt_array]
    exact beginsValue_enclosed rfl (by decide) _
  read := by
    intro depth fuel rest _ enough
    rw [writeAt_array] at enough ⊢
    obtain ⟨fuel, rfl⟩ := Nat.exists_eq_succ_of_ne_zero (Nat.ne_zero_of_lt enough)
    cases items with
    | nil => rfl
    | cons item items =>
        have begins := (readsBack item List.mem_cons_self).begins (depth + 1)
        have read := read_joinLines (writeAt (depth + 1)) Value.sorted
          (fun value member => takesLine_item (readsBack value member) (depth + 1))
          (length_joinLines_lt enough) (closes_newLine depth rfl rest) (endsNumber_newLine depth _)
        rw [List.map_cons, enclosed_cons, List.cons_append, List.append_assoc, List.append_assoc,
          List.singleton_append, readValue?_items (beginsValue_joinLines begins _ _),
          ← List.map_cons, read, Value.sorted, Value.sortedItems_eq_map]
        rfl

theorem readsBack_object (distinct : members.Distinct)
    (readsBack : ∀ member ∈ members, ReadsBack member.2) : ReadsBack (.object members) where
  begins := fun depth => by
    rw [writeAt_object]
    exact beginsValue_enclosed rfl (by decide) _
  read := by
    intro depth fuel rest _ enough
    have readsBack : ∀ member ∈ members.sort, ReadsBack member.2 := fun member isMember =>
      readsBack member (members.sort_perm.mem_iff.mp isMember)
    have sorted : Value.sorted (.object members) =
        .object (Members.ofList (members.sort.map fun member => (member.1, member.2.sorted))) := by
      have distinct := (Value.distinct_sortedMembers distinct).sort
      rw [← Value.sort_sortedMembers, Members.ofList_of_distinct distinct, Value.sorted]
    rw [sorted]
    rw [writeAt_object] at enough ⊢
    obtain ⟨fuel, rfl⟩ := Nat.exists_eq_succ_of_ne_zero (Nat.ne_zero_of_lt enough)
    generalize members.sort = members at *
    cases members with
    | nil => rfl
    | cons member members =>
        have begins := (takesLine_member (readsBack member List.mem_cons_self) (depth + 1)).begins
        have read := read_joinLines (memberLine (depth + 1))
          (fun member => (member.1, member.2.sorted))
          (fun other isMember => takesLine_member (readsBack other isMember) (depth + 1))
          (length_joinLines_lt enough) (closes_newLine depth rfl rest) (endsNumber_newLine depth _)
        rw [List.map_cons, enclosed_cons, List.cons_append, List.append_assoc, List.append_assoc,
          List.singleton_append, readValue?_members (beginsValue_joinLines begins _ _),
          ← List.map_cons, read]
        rfl

/-- Every value that JSON can spell is read back from what is written for it. -/
theorem readsBack_of_isJson (isJson : value.IsJson) : ReadsBack value := by
  induction isJson with
  | null => exact readsBack_scalar rfl (fun _ => rfl) fun _ => rfl
  | bool value => cases value <;> exact readsBack_scalar rfl (fun _ => rfl) fun _ => rfl
  | int fits => exact readsBack_scalar rfl (fun _ => rfl) (readScalar?_int fits)
  | float known => exact readsBack_scalar rfl (fun _ => rfl) (readScalar?_float known)
  | text value => exact readsBack_text value
  | array values ih => exact readsBack_array ih
  | object distinct values ih => exact readsBack_object distinct ih

theorem read?_writeAt (isJson : value.IsJson) : read? (writeAt 0 value) = some value.sorted := by
  obtain ⟨begins, read⟩ := readsBack_of_isJson isJson
  have atEnd : EndsNumber [] := nofun
  have whole := read atEnd (Nat.lt_succ_self (writeAt 0 value).length)
  have noBlank := skipSpaces_begins (begins 0) []
  rw [List.append_nil] at whole noBlank
  rw [read?, noBlank, whole]
  rfl

/-- Every value that JSON can spell is written; it is read back with its members in order, and
then it is written the same again. -/
theorem exists_write (isJson : value.IsJson) :
    ∃ text, write value = .ok text ∧ read? text = some value.sorted ∧
      write value.sorted = .ok text := by
  have readBack := read?_writeAt isJson
  refine ⟨_, if_pos isJson.isSpellable, readBack, ?_⟩
  rw [write, if_pos (isJson_of_read? readBack).isSpellable, writeAt_sorted isJson 0]

end InlineMarkers.Json
