import InlineMarkers.Completion.Days
import InlineMarkers.Text.LowerCase
import InlineMarkers.Value.Numeral

/-!
# Ranking candidates

A candidate scores by how its value or label matches what is typed, ignoring
case: all of it, its beginning, some part of it, or its letters in order.  A
matching candidate that is often meant scores a little more.  Days are ranked by
the digits of the day alone.  The best come first, and candidates with the same
score stay in their order.
-/

namespace InlineMarkers.Candidate

open Text Calendar

/-- Whether a text is the beginning of another one or stands somewhere inside it. -/
def isPart (part : List Char) : List Char → Bool
  | [] => part.isEmpty
  | c :: rest => part.isPrefixOf (c :: rest) || isPart part rest

/-- Whether the characters of a text occur in another one in the same order.  Each is looked
for after the one before it, at the first place where it occurs. -/
def isSubsequence : List Char → List Char → Bool
  | [], _ => true
  | c :: rest, target =>
      match target.dropWhile (· != c) with
      | [] => false
      | _ :: after => isSubsequence rest after

/-- The score of a text that is all that is typed. -/
def exactScore : Nat := 1000

/-- The score of a text that starts with what is typed. -/
def startScore : Nat := 100

/-- The score of a text that holds what is typed. -/
def partScore : Nat := 50

/-- The score of a value that holds the characters of what is typed in their order. -/
def subsequenceScore : Nat := 10

/-- How well a candidate matches what is typed; zero if it does not. -/
def matchScore (query : List Char) (candidate : Candidate) : Nat :=
  let typed := lower query
  let value := lower candidate.value.toList
  let label := lower candidate.label.toList
  if typed == value || typed == label then exactScore
  else if typed.isPrefixOf value || typed.isPrefixOf label then startScore
  else if isPart typed value || isPart typed label then partScore
  else if isSubsequence typed value then subsequenceScore
  else 0

/-- What a candidate of a kind scores besides, because it is often meant. -/
def typeBoost (kind : Option MarkerKind) (candidate : Candidate) : Nat :=
  let value := String.ofList (lower candidate.value.toList)
  match kind with
  | some .date => if ["today", "tomorrow", "yesterday"].contains value then 50 else 0
  | some .priority => if ["high", "medium", "low", "critical"].contains value then 30 else 0
  | some .color => if candidate.category == some "Basic" then 20 else 0
  | some .tag => if candidate.category == some "Status" then 15 else 0
  | some .assignee => if candidate.category == some "Roles" then 25 else 0
  | none => 0

def score (kind : Option MarkerKind) (query : List Char) (candidate : Candidate) : Nat :=
  let matched := matchScore query candidate
  if 0 < matched then matched + typeBoost kind candidate else 0

/-- The digits of the day in a text that starts with year and month, if it ends with them. -/
def dayDigitsAt? (text : List Char) : Option (List Char) :=
  match fields '-' text with
  | [year, month, day] =>
      let digits := day.takeWhile isDecimalDigit
      if isDigitRow 4 4 year && isDigitRow 1 2 month && atEnd (day.drop digits.length) then
        some digits
      else none
  | _ => none

/-- The digits of the day in a query, which may start with something else than a year. -/
def dayDigits? : List Char → Option (List Char)
  | [] => none
  | c :: rest => dayDigitsAt? (c :: rest) <|> dayDigits? rest

/-- The score of a day by the digits typed of it.  Days are told apart by their labels, and a
label that starts with those digits must be a number. -/
def dayScore (digits : List Char) (candidate : Candidate) : Except NumeralError Nat :=
  let boost := if ["1", "15", "30", "31"].contains candidate.label then 15 else 0
  if candidate.label.toList == digits then .ok (exactScore + boost)
  else if digits.isPrefixOf candidate.label.toList then
    match Numeral.integer? candidate.label.toList with
    | some day => .ok (startScore + (if day ≤ 9 then 20 else 0) + boost)
    | none => .error .notNumeral
  else .ok 0

/-- The candidates with a positive score, the best ones first. -/
def byScore (scored : List (Nat × Candidate)) : List Candidate :=
  (((scored.filter (0 < ·.1)).mergeSort fun left right => right.1 ≤ left.1)).map (·.2)

/-- Whether candidates are the days of a month. -/
def areDays (candidates : List Candidate) : Bool :=
  (candidates.head?).any (·.category == some "Days")

/-- The candidates that match a query, the best ones first; all of them in their order when
there is nothing to match. -/
def rank (kind : Option MarkerKind) (query : List Char) (candidates : List Candidate) :
    Except NumeralError (List Candidate) :=
  if query.all isBlank then .ok candidates
  else if areDays candidates then
    match dayDigits? query with
    | none | some [] => .ok candidates
    | some digits => do
        let scored ← candidates.mapM fun candidate =>
          (dayScore digits candidate).map (·, candidate)
        return byScore scored
  else .ok (byScore (candidates.map fun candidate => (score kind query candidate, candidate)))

/-- The candidates among which a query of a kind is looked up: the days of the month when a
date is typed up to its day, the kind's table otherwise. -/
def table (kind : Option MarkerKind) (query : List Char) : List Candidate :=
  if kind = some .date ∧ query.count '-' = 2 then
    match PartialDate.ofText? query with
    | some date => days date
    | none => ofKind? kind
  else ofKind? kind

/-- The text that a candidate's value puts into a marker of a kind: a tag's closing bracket
is there already. -/
def applyText (kind : Option MarkerKind) (value : List Char) : List Char :=
  if kind = some .tag ∧ value.getLast? = some ']' then value.dropLast else value

end InlineMarkers.Candidate
