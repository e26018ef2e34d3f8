import IssueQuery.Operation.Refusal
import IssueQuery.Query.Statement
import IssueQuery.Service.Store
import IssueQuery.Text.Blank

namespace IssueQuery

/-! Which issues a statement is about. -/

/-- What a statement may leave open. -/
structure Scope where
  project : Option String := none
  board : Option UInt64 := none
deriving DecidableEq, Repr, Inhabited

namespace Scope

/-- The project without blanks around it; a blank one counts as unset. -/
def project? (scope : Scope) : Option String := scope.project.bind Text.nonblank?

/-- Boards are numbered from one. -/
def board? (scope : Scope) : Option UInt64 := scope.board.filter (0 < ·)

end Scope

/-- The project that a statement names: by name, or else by place. -/
def Statement.project? (statement : Statement) : Option String :=
  ((statement.value? "project").bind Text.nonblank?).or
    (statement.positional.head?.bind Text.nonblank?)

/-- The project of a statement, or else that of the scope. -/
def Statement.projectIn? (statement : Statement) (scope : Scope) : Option String :=
  statement.project?.or scope.project?

def Statement.checkPositional (statement : Statement) : Except Refusal Unit :=
  if 1 < statement.positional.length then .error .secondPositional else .ok ()

/-- Conditions on issues.  The service tests project, type and status; the
others are tested on what it answers. -/
structure Criteria where
  filter : Filter
  assignee : Option String := none
  priority : Option String := none
deriving DecidableEq, Repr, Inhabited

namespace Criteria

def ofStatement (scope : Scope) (statement : Statement) : Except Refusal Criteria := do
  statement.checkPositional
  match statement.projectIn? scope with
  | none => throw .missingProject
  | some project =>
      return {
        filter := {
          project := some project
          type := statement.value? "type"
          status := statement.value? "status" }
        assignee := statement.value? "assignee"
        priority := statement.value? "priority" }

/-- The fields that are tested on what the service answers. -/
def fields (criteria : Criteria) : List Field :=
  (criteria.assignee.map fun _ => Field.assignee).toList ++
    (criteria.priority.map fun _ => Field.priority).toList

/-- Whether an issue of the service's answer is meant. -/
def admits (criteria : Criteria) (issue : Issue) : Bool :=
  Store.matchesName issue.assigneeName criteria.assignee &&
    Store.matchesName issue.priorityName criteria.priority

end Criteria

end IssueQuery
