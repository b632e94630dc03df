import InlineMarkers.Marker.Kind

/-!
# Completion candidates

Each kind of marker has a table of values that may complete it.  A candidate has
a label and may have a description and a category; categories have ranks, by
which candidates are grouped when they are shown.
-/

namespace InlineMarkers

/-- A value that may complete a marker. -/
structure Candidate where
  value : String
  label : String
  description : Option String
  category : Option String
  deriving DecidableEq, Repr

namespace Candidate

/-- A row of a table, in which every candidate has a description and a category. -/
def row (category value label description : String) : Candidate :=
  ⟨value, label, some description, some category⟩

def colors : List Candidate :=
  [row "Brand" "#10b981" "Emerald" "Primary green",
    row "Brand" "#0891b2" "Cyan" "Primary blue",
    row "Brand" "#7c3aed" "Violet" "Primary purple",
    row "Brand" "#dc2626" "Red" "Danger/High priority",
    row "Brand" "#ea580c" "Orange" "Warning/Medium priority",
    row "Basic" "#ffffff" "White" "Pure white",
    row "Basic" "#000000" "Black" "Pure black",
    row "Basic" "#ef4444" "Red" "Bright red",
    row "Basic" "#22c55e" "Green" "Bright green",
    row "Basic" "#3b82f6" "Blue" "Bright blue",
    row "Basic" "#f59e0b" "Yellow" "Bright yellow",
    row "Basic" "#8b5cf6" "Purple" "Bright purple",
    row "Basic" "#06b6d4" "Cyan" "Bright cyan",
    row "Grays" "#f8fafc" "Gray 50" "Very light gray",
    row "Grays" "#e2e8f0" "Gray 200" "Light gray",
    row "Grays" "#94a3b8" "Gray 400" "Medium gray",
    row "Grays" "#475569" "Gray 600" "Dark gray",
    row "Grays" "#1e293b" "Gray 800" "Very dark gray"]

def dates : List Candidate :=
  [row "Quick" "today" "Today" "Current date",
    row "Quick" "tomorrow" "Tomorrow" "Next day",
    row "Quick" "yesterday" "Yesterday" "Previous day",
    row "Weekdays" "monday" "Monday" "Next Monday",
    row "Weekdays" "tuesday" "Tuesday" "Next Tuesday",
    row "Weekdays" "wednesday" "Wednesday" "Next Wednesday",
    row "Weekdays" "thursday" "Thursday" "Next Thursday",
    row "Weekdays" "friday" "Friday" "Next Friday",
    row "Weekdays" "saturday" "Saturday" "Next Saturday",
    row "Weekdays" "sunday" "Sunday" "Next Sunday",
    row "Relative" "week" "Next Week" "One week from now",
    row "Relative" "month" "Next Month" "One month from now",
    row "Relative" "next" "Next" "Next occurrence",
    row "Relative" "last" "Last" "Previous occurrence"]

def priorities : List Candidate :=
  [row "Priority" "critical" "Critical" "Drop everything priority",
    row "Priority" "high" "High Priority" "Urgent task",
    row "Priority" "medium" "Medium Priority" "Moderate importance",
    row "Priority" "low" "Low Priority" "Non-urgent task",
    row "Status" "urgent" "Urgent" "Needs immediate attention",
    row "Status" "asap" "ASAP" "As soon as possible",
    row "Status" "blocked" "Blocked" "Cannot proceed",
    row "Status" "waiting" "Waiting" "Waiting for something",
    row "Status" "review" "Review" "Needs review",
    row "Status" "done" "Done" "Completed",
    row "Status" "todo" "Todo" "Not started",
    row "Status" "next" "Next" "Up next",
    row "Status" "later" "Later" "Future consideration"]

def tags : List Candidate :=
  [row "Work" "meeting" "Meeting" "Meeting-related item",
    row "Work" "project" "Project" "Project-related",
    row "Work" "task" "Task" "Specific work task",
    row "Work" "deadline" "Deadline" "Has a specific deadline",
    row "Work" "milestone" "Milestone" "Project milestone",
    row "Work" "review" "Review" "Needs review or approval",
    row "Work" "research" "Research" "Research required",
    row "Work" "planning" "Planning" "Planning activity",
    row "Work" "presentation" "Presentation" "Presentation-related",
    row "Work" "client" "Client" "Client-related",
    row "Work" "budget" "Budget" "Budget consideration",
    row "Work" "training" "Training" "Learning or training",
    row "Status" "todo" "Todo" "Action item to complete",
    row "Status" "done" "Done" "Completed item",
    row "Status" "urgent" "Urgent" "Requires immediate attention",
    row "Status" "important" "Important" "High importance",
    row "Status" "blocked" "Blocked" "Waiting on something",
    row "Status" "waiting" "Waiting" "Waiting for response",
    row "Status" "progress" "In Progress" "Currently working on",
    row "Status" "followup" "Follow-up" "Needs follow-up action",
    row "Status" "on-hold" "On Hold" "Temporarily paused",
    row "Status" "cancelled" "Cancelled" "No longer needed",
    row "Content" "idea" "Idea" "Creative or strategic idea",
    row "Content" "note" "Note" "General note",
    row "Content" "question" "Question" "Requires clarification",
    row "Content" "decision" "Decision" "Decision to be made",
    row "Content" "reference" "Reference" "Reference material",
    row "Content" "draft" "Draft" "Draft content",
    row "Personal" "personal" "Personal" "Personal item",
    row "Personal" "health" "Health" "Health-related",
    row "Personal" "family" "Family" "Family-related",
    row "Personal" "finance" "Finance" "Financial matter",
    row "Personal" "travel" "Travel" "Travel-related",
    row "Personal" "shopping" "Shopping" "Shopping list item",
    row "Personal" "home" "Home" "Home-related task",
    row "Development" "learning" "Learning" "Learning activity",
    row "Development" "course" "Course" "Course or education",
    row "Development" "book" "Book" "Book or reading",
    row "Development" "article" "Article" "Article to read",
    row "Tech" "bug" "Bug" "Bug or issue",
    row "Tech" "feature" "Feature" "New feature",
    row "Tech" "improvement" "Improvement" "Enhancement",
    row "Tech" "documentation" "Documentation" "Documentation work",
    row "Tech" "testing" "Testing" "Testing activity",
    row "Tech" "deployment" "Deployment" "Deployment task",
    row "Tech" "refactor" "Refactor" "Code refactoring"]

def assignees : List Candidate :=
  [row "Team" "john" "John" "Assign to John",
    row "Team" "sarah" "Sarah" "Assign to Sarah",
    row "Team" "mike" "Mike" "Assign to Mike",
    row "Team" "jane" "Jane" "Assign to Jane",
    row "Team" "alex" "Alex" "Assign to Alex",
    row "Team" "john.doe" "John Doe" "Assign to John Doe",
    row "Team" "sarah.smith" "Sarah Smith" "Assign to Sarah Smith",
    row "Roles" "manager" "Manager" "Assign to manager",
    row "Roles" "team-lead" "Team Lead" "Assign to team lead",
    row "Roles" "developer" "Developer" "Assign to developer",
    row "Roles" "designer" "Designer" "Assign to designer",
    row "Roles" "qa" "QA" "Assign to QA team",
    row "Roles" "product-owner" "Product Owner" "Assign to product owner",
    row "Roles" "architect" "Architect" "Assign to architect",
    row "Roles" "support" "Support" "Assign to support team",
    row "Teams" "frontend" "Frontend Team" "Assign to frontend team",
    row "Teams" "backend" "Backend Team" "Assign to backend team",
    row "Teams" "devops" "DevOps Team" "Assign to DevOps team",
    row "Teams" "design" "Design Team" "Assign to design team",
    row "Special" "me" "Me" "Assign to myself",
    row "Special" "unassigned" "Unassigned" "Remove assignment",
    row "Special" "anyone" "Anyone" "Anyone can take this",
    row "Special" "team" "Team" "Assign to entire team"]

def ofKind : MarkerKind → List Candidate
  | .color => colors
  | .date => dates
  | .priority => priorities
  | .tag => tags
  | .assignee => assignees

/-- The candidates of a kind that may be unknown; an unknown kind has none. -/
def ofKind? (kind : Option MarkerKind) : List Candidate :=
  kind.elim [] ofKind

/-- The ranks of the categories that every kind of marker may use. -/
def baseRanks : List (String × Nat) :=
  [("Quick", 1), ("Basic", 2), ("Common", 3), ("Advanced", 4)]

/-- The ranks of the categories of one kind of marker. -/
def ranks : MarkerKind → List (String × Nat)
  | .date =>
      [("Days", 0), ("Quick", 1), ("Weekdays", 2), ("Relative", 3), ("Months", 4), ("Periods", 5)]
  | .priority => [("Priority", 1), ("Status", 2)]
  | .color => [("Brand", 1), ("Basic", 2), ("Grays", 3)]
  | .tag =>
      [("Status", 1), ("Work", 2), ("Content", 3), ("Personal", 4), ("Development", 5),
        ("Tech", 6)]
  | .assignee => [("Special", 1), ("Roles", 2), ("Teams", 3), ("Team", 4)]

/-- The rank of everything that has no rank of its own. -/
def lastRank : Nat := 10

/-- The rank of a category among the candidates of a kind of marker: the kind's own rank, or
else the rank that the category has everywhere. -/
def categoryRank (kind : Option MarkerKind) (category : Option String) : Nat :=
  match category with
  | none => lastRank
  | some name =>
      if name == "" then lastRank
      else
        match (kind.elim [] ranks).lookup name with
        | some rank => rank
        | none => (baseRanks.lookup name).getD lastRank

/-- Candidates in the order of their categories; the order within a category stays. -/
def groupByCategory (kind : Option MarkerKind) (candidates : List Candidate) : List Candidate :=
  candidates.mergeSort fun left right =>
    categoryRank kind left.category ≤ categoryRank kind right.category

end Candidate

end InlineMarkers
