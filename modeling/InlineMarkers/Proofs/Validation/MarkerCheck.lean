import InlineMarkers.Proofs.Validation.AssigneeCheck
import InlineMarkers.Proofs.Validation.ColorCheck
import InlineMarkers.Proofs.Validation.DateCheck
import InlineMarkers.Proofs.Validation.PriorityCheck
import InlineMarkers.Proofs.Validation.TagCheck
import InlineMarkers.Validation.Note

/-!
# What the check of a marker finds

The checks of the five kinds together: which codes belong to which part of a
validation, at which range a diagnostic points, that a diagnostic moves with its
marker, and what a fix leaves of the marker.
-/

namespace InlineMarkers

open Text Calendar

namespace DiagnosticCode

open Validation

/-- The part of a validation that reports a code. -/
def part? : DiagnosticCode → Option CheckPart
  | tagEmpty | tagInvalidChars | tagTooLong => some (.marker .tag)
  | colorFormatInvalid => some (.marker .color)
  | priorityInvalid => some (.marker .priority)
  | dateFormatSlash | dateFormatUs | dateFormatUsHyphen | dateYearRange | dateMonthRange
  | dateDayRange | dateCalendarInvalid | dateFormatInvalid => some (.marker .date)
  | assigneeInvalidFormat | assigneeTooLong => some (.marker .assignee)
  | tagIncomplete | colorIncomplete | dateIncomplete | assigneeIncomplete
  | priorityIncomplete => some .incomplete
  | tagSuggestion | datePatternSuggestion => some .suggestions
  | other _ => none

end DiagnosticCode

/-- The part of a validation that a diagnostic comes from. -/
def Diagnostic.part? (diagnostic : Diagnostic) : Option Validation.CheckPart :=
  diagnostic.code.bind DiagnosticCode.part?

namespace QuickFix

/-- The value of a marker after a fix.  Empty brackets are replaced together with what they
hold, and what they hold is the new tag. -/
def valueAfter (fix : QuickFix) (value : List Char) : List Char :=
  if value.isEmpty then Validation.newTag else fix.replacement

end QuickFix

namespace Validation

variable {faults : Faults} {config : MarkerConfig} {today : Date} {kind : MarkerKind}
  {value : List Char} {start : Nat} {diagnostic : Diagnostic} {fix : QuickFix}

/-- Where the diagnostic for a value of a kind points: at the value, or at the brackets when
there is nothing between them. -/
inductive Flags (kind : MarkerKind) (value : List Char) (start : Nat)
    (diagnostic : Diagnostic) : Prop where
  | value {code : DiagnosticCode} {offered : List (List Char)} (nonempty : value ≠ [])
      (ofKind : code.part? = some (.marker kind))
      (reports : diagnostic.Reports code start value offered)
  | brackets (isTag : kind = .tag) (empty : value = []) (behind : 1 ≤ start)
      (reports : diagnostic.Reports .tagEmpty (start - 1) ['[', ']'] ['[' :: (newTag ++ [']'])])

theorem checkValue_of_diagnose
    (found : diagnose faults config today kind value start = some diagnostic) :
    checkValue config today kind value start = .ok (some diagnostic) := by
  simp only [diagnose, Faults.run] at found
  split at found
  · rename_i outcome isOutcome
    split at isOutcome
    · simp at isOutcome
    · rw [isOutcome, found]
  · simp at found

theorem diagnose_of_checkValue {outcome : Option Diagnostic}
    (found : checkValue config today kind value start = .ok outcome) :
    diagnose noFaults config today kind value start = outcome := by
  simp [diagnose, Faults.run, noFaults, found]

theorem flags_of_iso {year month day : Int} (nonempty : value ≠ [])
    (finding : IsoFinding config today value start year month day diagnostic) :
    Flags .date value start diagnostic := by
  cases finding with
  | year _ reports => exact .value nonempty rfl reports
  | month _ reports => exact .value nonempty rfl reports
  | day _ _ reports => exact .value nonempty rfl reports
  | calendar _ _ reports => exact .value nonempty rfl reports

theorem flags_of_date (found : checkDate config today value start = .ok (some diagnostic)) :
    Flags .date value start diagnostic := by
  have nonempty : value ≠ [] := by
    rintro rfl
    simp [checkDate] at found
  cases checkDate_finding found with
  | unknown _ _ _ reports => exact .value nonempty rfl reports
  | slashed _ _ _ _ reports => exact .value nonempty rfl reports
  | monthFirst _ _ _ _ reports => exact .value nonempty rfl reports
  | monthFirstHyphens _ _ _ _ reports => exact .value nonempty rfl reports
  | iso _ _ _ _ finding => exact flags_of_iso nonempty finding

theorem flags_of_checkValue
    (found : checkValue config today kind value start = .ok (some diagnostic)) :
    Flags kind value start diagnostic := by
  cases kind with
  | tag =>
      cases checkTag_finding (Except.ok.inj found) with
      | brackets empty behind reports => exact .brackets rfl empty behind reports
      | blank nonempty _ reports => exact .value nonempty rfl reports
      | forbidden nonempty _ reports => exact .value nonempty rfl reports
      | long nonempty _ reports => exact .value nonempty rfl reports
  | color =>
      obtain ⟨nonempty, -, reports⟩ := checkColor_reports (Except.ok.inj found)
      exact .value nonempty rfl reports
  | priority =>
      obtain ⟨nonempty, -, reports⟩ := checkPriority_reports (Except.ok.inj found)
      exact .value nonempty rfl reports
  | date => exact flags_of_date found
  | assignee =>
      cases checkAssignee_finding (Except.ok.inj found) with
      | malformed nonempty _ reports => exact .value nonempty rfl reports
      | long nonempty _ _ reports => exact .value nonempty rfl reports

/-- A diagnostic for a value points at it and has a code of its kind. -/
theorem diagnose_flags (found : diagnose faults config today kind value start = some diagnostic) :
    Flags kind value start diagnostic :=
  flags_of_checkValue (checkValue_of_diagnose found)

theorem Flags.part_eq (flags : Flags kind value start diagnostic) :
    diagnostic.part? = some (.marker kind) := by
  cases flags with
  | value _ ofKind reports => rw [Diagnostic.part?, reports.code_eq, Option.bind_some, ofKind]
  | brackets isTag _ _ reports =>
      rw [Diagnostic.part?, reports.code_eq, Option.bind_some, isTag]
      rfl

/-- A diagnostic moves with the value that it is about. -/
theorem diagnose_steady (faults : Faults) (config : MarkerConfig) (today : Date)
    (kind : MarkerKind) : Steady (diagnose faults config today kind) := by
  intro value near far distance nearPos farPos apart
  have moved : checkValue config today kind value far =
      (checkValue config today kind value near).map (Option.map (Diagnostic.move distance)) := by
    cases kind with
    | tag => exact congrArg Except.ok (checkTag_steady config value near far _ nearPos farPos apart)
    | color => exact congrArg Except.ok (checkColor_steady value near far _ nearPos farPos apart)
    | priority =>
        exact congrArg Except.ok (checkPriority_steady config value near far _ nearPos farPos apart)
    | date => exact checkDate_move config today value apart
    | assignee =>
        exact congrArg Except.ok (checkAssignee_steady config value near far _ nearPos farPos apart)
  cases isBroken : faults (.marker kind) with
  | true => simp [diagnose, Faults.run, isBroken]
  | false =>
      simp only [diagnose, Faults.run, isBroken, moved]
      cases checkValue config today kind value near <;> rfl

/-- Every fix of a value that is not a date leaves a value of its kind on which the same is
not reported. -/
theorem diagnose_settles (roomForTag : 4 ≤ config.maxTagLength)
    (roomForName : 4 ≤ config.maxAssigneeLength) (admits : kind.Admits value)
    (found : diagnose noFaults config today kind value start = some diagnostic)
    (offered : fix ∈ diagnostic.fixes) :
    Settles (diagnose noFaults config today kind) kind diagnostic.code (fix.valueAfter value) := by
  have outcome := checkValue_of_diagnose found
  have keep (nonempty : value ≠ []) : fix.valueAfter value = fix.replacement :=
    if_neg (by simpa using nonempty)
  cases kind with
  | tag => exact checkTag_settles roomForTag admits (Except.ok.inj outcome) offered
  | color =>
      have known := Except.ok.inj outcome
      rw [keep (checkColor_reports known).1]
      exact checkColor_settles known offered
  | priority =>
      have known := Except.ok.inj outcome
      rw [keep admits.1]
      exact checkPriority_settles known offered
  | date => exact absurd admits id
  | assignee =>
      have unbroken : '\n' ∉ value := fun member => absurd (admits.2 _ member) (by decide)
      rw [keep admits.1]
      exact checkAssignee_settles roomForName unbroken (Except.ok.inj outcome) offered

end Validation

end InlineMarkers
