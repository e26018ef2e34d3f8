import IssueQuery.Json.Value

namespace IssueQuery

/-! The resources of an issue-tracking service.

Only what queries read is kept.  A service leaves out what it was not asked
for, so every part has a value that stands for its absence. -/

structure IssueType where
  id : String := ""
  name : String := ""
  subtask : Bool := false
deriving DecidableEq, Repr, Inhabited

structure Status where
  id : String := ""
  name : String := ""
deriving DecidableEq, Repr, Inhabited

structure Priority where
  id : String := ""
  name : String := ""
deriving DecidableEq, Repr, Inhabited

structure User where
  accountId : String := ""
  displayName : String := ""
  emailAddress : String := ""
deriving DecidableEq, Repr, Inhabited

structure Project where
  id : String := ""
  key : String := ""
  name : String := ""
  /-- The kind of project, such as `software`. -/
  typeKey : String := ""
deriving DecidableEq, Repr, Inhabited

structure Board where
  id : UInt64 := 0
  name : String := ""
  type : String := ""
deriving DecidableEq, Repr, Inhabited

/-- What an issue says, over a type of related issues. -/
structure IssueDetails (Related : Type) where
  summary : Option String := none
  /-- A plain text or a rich-text document. -/
  description : Option Json := none
  type : Option IssueType := none
  project : Option Project := none
  status : Option Status := none
  priority : Option Priority := none
  assignee : Option User := none
  reporter : Option User := none
  labels : List String := []
  parent : Option Related := none
  subtasks : List Related := []
  created : Option String := none
  updated : Option String := none
deriving Repr, Inhabited

structure Issue where
  id : String := ""
  key : String := ""
  details : IssueDetails Issue := {}
deriving Repr, Inhabited

namespace Issue

def statusName (issue : Issue) : Option String := issue.details.status.map (·.name)

/-- The name of the issue's type; an empty name counts as none. -/
def typeName (issue : Issue) : Option String :=
  (issue.details.type.map (·.name)).filter (· ≠ "")

def priorityName (issue : Issue) : Option String := issue.details.priority.map (·.name)

def assigneeName (issue : Issue) : Option String := issue.details.assignee.map (·.displayName)

def reporterName (issue : Issue) : Option String := issue.details.reporter.map (·.displayName)

def projectKey (issue : Issue) : Option String := issue.details.project.map (·.key)

def parentKey (issue : Issue) : Option String := issue.details.parent.map (·.key)

end Issue

end IssueQuery
