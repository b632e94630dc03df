import InlineMarkers.Proofs.Text.Ascii
import InlineMarkers.Proofs.Text.Trim
import InlineMarkers.Proofs.Validation.Settled
import InlineMarkers.Validation.Assignee

/-!
# What the check of assignees finds

A user name is found malformed or too long.  The text offered for a malformed
name is a user name, and a name that is cut is still one.
-/

namespace InlineMarkers.Validation

open Text

variable {config : MarkerConfig} {value : List Char} {start : Nat} {diagnostic : Diagnostic}
  {fix : QuickFix}

/-- What a diagnostic for a user name can be. -/
inductive AssigneeFinding (config : MarkerConfig) (value : List Char) (start : Nat)
    (diagnostic : Diagnostic) : Prop where
  | malformed (nonempty : value ≠ []) (malformed : isUserName value = false)
      (reports : diagnostic.Reports .assigneeInvalidFormat start value [sanitizeAssignee value])
  | long (nonempty : value ≠ []) (named : isUserName value = true)
      (long : config.maxAssigneeLength < value.length)
      (reports : diagnostic.Reports .assigneeTooLong start value
        [value.take config.maxAssigneeLength])

theorem checkAssignee_finding (found : checkAssignee config value start = some diagnostic) :
    AssigneeFinding config value start diagnostic := by
  simp only [checkAssignee] at found
  split at found
  · simp at found
  rename_i nonempty
  have nonemptyValue : value ≠ [] := by simpa using nonempty
  split at found
  · simp at found
  split at found
  · rename_i malformed
    obtain rfl := Option.some.inj found
    exact .malformed nonemptyValue (by simpa using malformed) (Diagnostic.reports_ofValue ..)
  rename_i named
  split at found
  · rename_i long
    obtain rfl := Option.some.inj found
    exact .long nonemptyValue (by simpa using named) long (Diagnostic.reports_ofValue ..)
  · simp at found

theorem checkAssignee_steady (config : MarkerConfig) : Steady (checkAssignee config) := by
  intro value near far distance _ _ apart
  simp only [checkAssignee, apart]
  repeat' split
  all_goals simp [Diagnostic.move_ofValue]

/-! ## User names -/

theorem isUserNameCharacter_iff {c : Char} :
    isUserNameCharacter c = true ↔ c.isAlphanum = true ∨ c = '.' ∨ c = '_' ∨ c = '-' := by
  simp only [isUserNameCharacter, Bool.or_eq_true, beq_iff_eq, or_assoc]

theorem toNat_lt_of_isUserNameCharacter {c : Char} (allowed : isUserNameCharacter c = true) :
    c.toNat < 0x80 := by
  rcases isUserNameCharacter_iff.mp allowed with inClass | rfl | rfl | rfl
  · exact toNat_lt_of_isAlphanum inClass
  all_goals decide

theorem isUserNameCharacter_toLower {c : Char} (allowed : isUserNameCharacter c = true) :
    isUserNameCharacter c.toLower = true := by
  rcases isUserNameCharacter_iff.mp allowed with inClass | rfl | rfl | rfl
  · rw [isUserNameCharacter_iff, isAlphanum_toLower]
    exact .inl inClass
  all_goals decide

theorem isAssigneeCharacter_of_isUserNameCharacter {c : Char}
    (allowed : isUserNameCharacter c = true) : Lexeme.isAssigneeCharacter c = true := by
  rcases isUserNameCharacter_iff.mp allowed with inClass | rfl | rfl | rfl
  · have solid := isBlank_of_isAlphanum inClass
    have other {d : Char} (outside : d.isAlphanum = false) : c ≠ d := by
      rintro rfl
      rw [inClass] at outside
      exact absurd outside (by decide)
    simp [Lexeme.isAssigneeCharacter, solid, other (d := '@') (by decide),
      other (d := '#') (by decide), other (d := '[') (by decide), other (d := ']') (by decide),
      other (d := '+') (by decide), other (d := ',') (by decide)]
  all_goals decide

/-- A letter and allowed characters behind it. -/
def StartsName (name : List Char) : Prop :=
  ∃ first rest, name = first :: rest ∧ first.isAlpha = true ∧
    ∀ c ∈ rest, isUserNameCharacter c = true

theorem StartsName.allowed {name : List Char} (starts : StartsName name) :
    ∀ c ∈ name, isUserNameCharacter c = true := by
  obtain ⟨first, rest, rfl, letter, allowed⟩ := starts
  intro c member
  rcases List.mem_cons.mp member with rfl | later
  · simp [isUserNameCharacter, Char.isAlphanum, letter]
  · exact allowed c later

theorem StartsName.isUserName {name : List Char} (starts : StartsName name) :
    isUserName name = true := by
  have unbroken : '\n' ∉ name := fun member => absurd (starts.allowed _ member) (by decide)
  obtain ⟨first, rest, rfl, letter, allowed⟩ := starts
  simp only [Validation.isUserName, withoutFinalBreak_of_notMem unbroken, letter, Bool.true_and]
  exact List.all_eq_true.mpr allowed

theorem startsName_of_isUserName {name : List Char} (unbroken : '\n' ∉ name)
    (named : isUserName name = true) : StartsName name := by
  rw [Validation.isUserName, withoutFinalBreak_of_notMem unbroken] at named
  cases name with
  | nil => simp at named
  | cons first rest =>
      simp only [Bool.and_eq_true, List.all_eq_true] at named
      exact ⟨first, rest, rfl, named.1, named.2⟩

theorem StartsName.admits {name : List Char} (starts : StartsName name) :
    MarkerKind.assignee.Admits name := by
  refine ⟨?_, fun c member => isAssigneeCharacter_of_isUserNameCharacter (starts.allowed c member)⟩
  obtain ⟨first, rest, rfl, -⟩ := starts
  exact List.cons_ne_nil first rest

/-! ## The fixes -/

theorem startsName_sanitizeAssignee (value : List Char) :
    StartsName (sanitizeAssignee value) := by
  cases cleaned : (value.filter isUserNameCharacter).dropWhile (!Char.isAlpha ·) with
  | nil =>
      have fallback : sanitizeAssignee value = ['u', 's', 'e', 'r'] := by
        rw [sanitizeAssignee, cleaned]
        rfl
      rw [fallback]
      exact ⟨'u', ['s', 'e', 'r'], rfl, by decide, List.all_eq_true.mp (by decide)⟩
  | cons first rest =>
      have allowed : ∀ c ∈ first :: rest, isUserNameCharacter c = true := by
        intro c member
        rw [← cleaned] at member
        exact (List.mem_filter.mp ((List.dropWhile_suffix _).subset member)).2
      have letter : first.isAlpha = true := by
        have stops := List.head?_dropWhile_not (!Char.isAlpha ·) (value.filter isUserNameCharacter)
        rw [cleaned] at stops
        simpa using stops
      have lowered : sanitizeAssignee value = (first :: rest).map Char.toLower := by
        rw [sanitizeAssignee, cleaned]
        exact lower_of_ascii fun c member => toNat_lt_of_isUserNameCharacter (allowed c member)
      refine ⟨first.toLower, rest.map Char.toLower, lowered, ?_, ?_⟩
      · rw [isAlpha_toLower, letter]
      · intro c member
        obtain ⟨d, isLater, rfl⟩ := List.mem_map.mp member
        exact isUserNameCharacter_toLower (allowed d (List.mem_cons_of_mem first isLater))

theorem sanitizeAssignee_settles (config : MarkerConfig) (value : List Char) :
    Settles (checkAssignee config) .assignee (some .assigneeInvalidFormat)
      (sanitizeAssignee value) where
  admits := (startsName_sanitizeAssignee value).admits
  nonempty := (startsName_sanitizeAssignee value).admits.1
  cleared := by
    intro start again found
    cases checkAssignee_finding found with
    | malformed _ malformed =>
        rw [(startsName_sanitizeAssignee value).isUserName] at malformed
        exact absurd malformed (by decide)
    | long _ _ _ reports => simp [reports.code_eq]

theorem take_settles (room : 4 ≤ config.maxAssigneeLength)
    (unbroken : '\n' ∉ value) (named : isUserName value = true) :
    Settles (checkAssignee config) .assignee (some .assigneeTooLong)
      (value.take config.maxAssigneeLength) := by
  obtain ⟨first, rest, rfl, letter, allowed⟩ := startsName_of_isUserName unbroken named
  obtain ⟨more, roomEq⟩ := Nat.exists_eq_add_of_le' (Nat.le_trans (by decide : 1 ≤ 4) room)
  have starts : StartsName ((first :: rest).take config.maxAssigneeLength) := by
    rw [roomEq, List.take_succ_cons]
    exact ⟨first, rest.take more, rfl, letter,
      fun c member => allowed c (List.mem_of_mem_take member)⟩
  refine ⟨starts.admits, starts.admits.1, fun start again found => ?_⟩
  cases checkAssignee_finding found with
  | malformed _ _ reports => simp [reports.code_eq]
  | long _ _ long =>
      have cut := List.length_take_le config.maxAssigneeLength (first :: rest)
      omega

/-- Every fix of a user name settles it. -/
theorem checkAssignee_settles (room : 4 ≤ config.maxAssigneeLength) (unbroken : '\n' ∉ value)
    (found : checkAssignee config value start = some diagnostic)
    (offered : fix ∈ diagnostic.fixes) :
    Settles (checkAssignee config) .assignee diagnostic.code fix.replacement := by
  cases checkAssignee_finding found with
  | malformed _ _ reports =>
      rw [reports.code_eq, reports.eq_of_mem offered]
      exact sanitizeAssignee_settles config value
  | long _ named _ reports =>
      rw [reports.code_eq, reports.eq_of_mem offered]
      exact take_settles room unbroken named

end InlineMarkers.Validation
