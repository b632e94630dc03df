import InlineMarkers.Completion.Source

/-!
# Showing completions

Completions are shown in a list, which has a current row, or in a panel, which
is such a list under a header.  A list that has nothing to show goes out of
sight and forgets its result; a panel whose list has nothing to show stays.
-/

namespace InlineMarkers

structure CompletionList where
  /-- The most rows that are shown; a negative number leaves out so many at the end. -/
  limit : Int
  result : Option CompletionResult
  rows : List Candidate
  /-- The current row; none if there is no current one. -/
  row : Option Nat
  visible : Bool
  deriving DecidableEq, Repr

namespace CompletionList

def ofLimit (limit : Int) : CompletionList :=
  ⟨limit, none, [], none, false⟩

/-- The candidates that a limit lets through. -/
def limited (limit : Int) (items : List Candidate) : List Candidate :=
  if 0 ≤ limit then items.take limit.toNat else items.take (items.length - limit.natAbs)

/-- The list out of sight, with nothing in it. -/
def dismiss (list : CompletionList) : CompletionList :=
  ofLimit list.limit

/-- The list with the candidates of a result, the first one current. -/
def setResult (list : CompletionList) (result : Option CompletionResult) : CompletionList :=
  let rows := (result.map fun result => limited list.limit result.items).getD []
  { list with result, rows, row := if rows.isEmpty then none else some 0 }

/-- The list showing a result, or dismissed if there is nothing to show. -/
def showResult (list : CompletionList) (result : Option CompletionResult) : CompletionList :=
  let filled := list.setResult result
  if filled.rows.isEmpty then filled.dismiss else { filled with visible := true }

/-- The list with another current row, going round at both ends. -/
def moveSelection (list : CompletionList) (delta : Int) : CompletionList :=
  if list.rows.isEmpty then list
  else
    { list with row := some ((((list.row.getD 0 : Nat) + delta) % list.rows.length).toNat) }

/-- The list with a given current row; none if it has no such row. -/
def selectRow (list : CompletionList) (row : Int) : CompletionList :=
  { list with
    row := if 0 ≤ row ∧ row < list.rows.length then some row.toNat else none }

/-- The candidate of the current row. -/
def current (list : CompletionList) : Option Candidate :=
  list.row.bind (list.rows[·]?)

end CompletionList

structure CompletionPanel where
  header : String
  list : CompletionList
  visible : Bool
  deriving DecidableEq, Repr

namespace CompletionPanel

def ofLimit (limit : Int) : CompletionPanel :=
  ⟨"", CompletionList.ofLimit limit, false⟩

def capitalized (word : String) : String :=
  match word.toList with
  | [] => ""
  | first :: rest => String.ofList (first.toUpper :: rest)

/-- The header for a result: the kind of marker and what is typed of it. -/
def headerFor (result : CompletionResult) : String :=
  let kind := capitalized result.kind.name
  let query := String.ofList result.query
  if query == "" then s!"{kind} suggestions" else s!"{kind} suggestions \"{query}\""

/-- The panel out of sight; its header stays. -/
def dismiss (panel : CompletionPanel) : CompletionPanel :=
  { panel with list := panel.list.dismiss, visible := false }

/-- The panel showing a result, or dismissed if there is none. -/
def showResult (panel : CompletionPanel) (result : Option CompletionResult) : CompletionPanel :=
  match result with
  | none => panel.dismiss
  | some found =>
      if found.items.isEmpty then panel.dismiss
      else
        { panel with
          header := headerFor found
          list := panel.list.showResult (some found)
          visible := true }

end CompletionPanel

end InlineMarkers
