import IssueQuery.Issue.RichText
import IssueQuery.Record.Basic

namespace IssueQuery

/-! The fields of an issue that a query can show. -/

inductive Field where
  | key
  | summary
  | status
  | assignee
  | type
  | priority
  | parent
  | description
  | labels
  | reporter
  | created
  | updated
  | project
  | subtasks
deriving DecidableEq, Repr, Inhabited

namespace Field

/-- Every field, in the order in which records show them. -/
def all : List Field :=
  [.key, .summary, .status, .assignee, .type, .priority, .parent, .description, .labels,
    .reporter, .created, .updated, .project, .subtasks]

def name : Field → String
  | .key => "key"
  | .summary => "summary"
  | .status => "status"
  | .assignee => "assignee"
  | .type => "type"
  | .priority => "priority"
  | .parent => "parent"
  | .description => "description"
  | .labels => "labels"
  | .reporter => "reporter"
  | .created => "created"
  | .updated => "updated"
  | .project => "project"
  | .subtasks => "subtasks"

def ofName? (name : String) : Option Field := all.find? (·.name = name)

/-- The name under which the service knows the field.  The key is part of every
answer and is not asked for. -/
def serviceName? : Field → Option String
  | .key => none
  | .type => some "issuetype"
  | other => some other.name

def isSortable : Field → Bool
  | .key => true
  | .summary => true
  | .status => true
  | .assignee => true
  | .type => true
  | .priority => true
  | .created => true
  | .updated => true
  | _ => false

def sortable : List Field := all.filter isSortable

def subtaskRecord (subtask : Issue) : Record :=
  let record := Record.ofList
    [("key", .text subtask.key), ("summary", .ofText? subtask.details.summary)]
  match subtask.statusName with
  | some statusName => record.insert "status" (.text statusName)
  | none => record

/-- The value of a field, which is missing only for an empty list of subtasks. -/
def value? (field : Field) (issue : Issue) : Option Value :=
  match field with
  | .key => some (.text issue.key)
  | .summary => some (.ofText? issue.details.summary)
  | .status => some (.ofText? issue.statusName)
  | .assignee => some (.ofText? issue.assigneeName)
  | .type => some (.ofText? issue.typeName)
  | .priority => some (.ofText? issue.priorityName)
  | .parent => some (.ofText? issue.parentKey)
  | .description => some (.ofText? issue.descriptionText)
  | .labels => some (.ofTexts issue.details.labels)
  | .reporter => some (.ofText? issue.reporterName)
  | .created => some (.ofText? issue.details.created)
  | .updated => some (.ofText? issue.details.updated)
  | .project => some (.ofText? issue.projectKey)
  | .subtasks =>
      if issue.details.subtasks.isEmpty then none
      else some (.list (issue.details.subtasks.map fun subtask => .ofRecord (subtaskRecord subtask)))

/-- The text by which issues are sorted; a field without text sorts as empty. -/
def sortKey (field : Field) (issue : Issue) : String :=
  match field.value? issue with
  | some (.text text) => text
  | _ => ""

/-- The fields of a list without those that occurred before. -/
def distinct (fields : List Field) : List Field :=
  fields.foldl (fun seen field => if seen.contains field then seen else seen ++ [field]) []

/-- The names to ask the service for, each once. -/
def serviceNames (fields : List Field) : List String :=
  (fields.filterMap serviceName?).foldl
    (fun seen name => if seen.contains name then seen else seen ++ [name]) []

end Field

end IssueQuery
