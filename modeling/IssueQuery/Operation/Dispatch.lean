import IssueQuery.Manual.Basic
import IssueQuery.Operation.Criteria
import IssueQuery.Operation.Handler
import IssueQuery.Operation.Order
import IssueQuery.Record.Json
import IssueQuery.Record.Tally

namespace IssueQuery

/-! The handlers of the operations, and which one a statement is carried out by.

Handlers are given statements of any kind.  What they refuse they refuse under
the name that the statement calls, but for what only one operation can refuse. -/

namespace Statement

/-- Refuses the first named argument that is not allowed. -/
def checkNames (statement : Statement) (allowed : String → Bool) : Except Refusal Unit :=
  match statement.named.find? fun argument => !allowed argument.1 with
  | some (name, _) => .error (.unknownArgument name)
  | none => .ok ()

def isListArgument (name : String) : Bool :=
  ["project", "type", "status", "assignee", "priority", "skip", "take"].contains name ||
    (Order.fieldName? name).isSome

/-- The board of a statement, or else that of the scope. -/
def boardIn? (statement : Statement) (scope : Scope) : Except Refusal (Option UInt64) :=
  match statement.value? "board" with
  | none => .ok scope.board?
  | some value =>
      match (Text.word? value).filter (0 < ·) with
      | some id => .ok (some id)
      | none => .error (.badBoard value)

end Statement

namespace Handler

/-- The fields that are counted by. -/
def tallied : List Field := [.status, .type]

def shownIssues (criteria : Criteria) (order : Option Order) (window : Window)
    (issues : List Issue) : List Issue :=
  let admitted := issues.filter criteria.admits
  let sorted :=
    match order with
    | some order => order.sort admitted
    | none => admitted
  window.apply sorted

def showIssues (selection : Selection) (issues : List Issue) : Value :=
  .list (issues.map fun issue => .ofRecord (selection.project issue))

def projectEntries (project : Project) (issues : List Issue) : List (String × Value) :=
  [("project", .ofRecord (.ofList
      [("key", .text project.key), ("name", .text project.name),
        ("type", .text project.typeKey)])),
    ("total_issues", .ofNat issues.length),
    ("by_status", .ofRecord (Tally.ofNames (issues.filterMap Issue.statusName)).toRecord),
    ("by_type", .ofRecord (Tally.ofNames (issues.filterMap Issue.typeName)).toRecord)]

def boardEntries (board : Board) : List (String × Value) :=
  [("board", .ofRecord (.ofList
      [("id", .ofNat board.id.toNat), ("name", .text board.name), ("type", .text board.type)]))]

def get (statement : Statement) (selection : Selection) : Handler Value := do
  check statement.operation (statement.checkNames fun _ => false)
  match statement.positional with
  | [] => refuse "get" .missingKey
  | first :: others =>
      match Text.nonblank? first with
      | none => refuse "get" .missingKey
      | some key =>
          if others.isEmpty then
            let issue ← fetch (.issue key selection.serviceFields)
            return .ofRecord (selection.project issue)
          else refuse "get" .secondKey

def list (scope : Scope) (statement : Statement) (selection : Selection) : Handler Value := do
  let operation := statement.operation
  check operation (statement.checkNames Statement.isListArgument)
  let criteria ← check operation (Criteria.ofStatement scope statement)
  let order ← check operation (Order.ofArguments statement.named)
  let window ← check operation (Window.ofStatement statement)
  let further := criteria.fields ++ (order.map (·.field)).toList
  let issues ← fetch (.issues criteria.filter (selection.serviceFieldsWith further))
  return showIssues selection (shownIssues criteria order window issues)

/-- Order and window of a count are checked, and then have no effect. -/
def count (scope : Scope) (statement : Statement) : Handler Value := do
  let operation := statement.operation
  check operation (statement.checkNames Statement.isListArgument)
  let _ ← check operation (Order.ofArguments statement.named)
  let _ ← check operation (Window.ofStatement statement)
  let criteria ← check operation (Criteria.ofStatement scope statement)
  let fields := Field.serviceNames (tallied ++ criteria.fields)
  let issues ← fetch (.issues criteria.filter fields)
  return .ofRecord (.ofList [("count", .ofNat (issues.filter criteria.admits).length)])

def summarizeProject (key : String) (record : Record) : Handler Record := do
  let project ← fetch (.project key)
  let issues ← fetch (.issues (Filter.ofProject key) (Field.serviceNames tallied))
  return record.insertMany (projectEntries project issues)

def summarizeBoard (id : UInt64) (record : Record) : Handler Record := do
  let board ← fetch (.board id)
  return record.insertMany (boardEntries board)

def summary (scope : Scope) (statement : Statement) : Handler Value := do
  let operation := statement.operation
  check operation (statement.checkNames fun name => name == "project" || name == "board")
  check operation statement.checkPositional
  let project := statement.projectIn? scope
  let board ← check operation (statement.boardIn? scope)
  if project.isNone && board.isNone then refuse operation .missingScope
  else
    let ofProject ←
      match project with
      | none => pure .empty
      | some key => summarizeProject key .empty
    let whole ←
      match board with
      | none => pure ofProject
      | some id => summarizeBoard id ofProject
    return .ofRecord whole

def search (statement : Statement) (selection : Selection) : Handler Value := do
  check statement.operation (statement.checkNames (· == "jql"))
  check statement.operation statement.checkPositional
  match (statement.value? "jql").or statement.positional.head? with
  | none => refuse "search" .missingSearch
  | some text =>
      if (Text.nonblank? text).isNone then refuse "search" .missingSearch
      else
        let issues ← fetch (.search text selection.serviceFields)
        return showIssues selection issues

def schema (statement : Statement) : Handler Value := do
  check statement.operation (statement.checkNames fun _ => false)
  return .ofJson Manual.current.toJson.sorted

def ofOperation (operation : Operation) (scope : Scope) (statement : Statement)
    (selection : Selection) : Handler Value :=
  match operation with
  | .get => get statement selection
  | .list => list scope statement selection
  | .count => count scope statement
  | .summary => summary scope statement
  | .search => search statement selection
  | .schema => schema statement

end Handler

/-- The handler of a statement, which is that of the operation with exactly its
name. -/
def Statement.handler (scope : Scope) (statement : Statement) : Handler Value :=
  match Operation.ofName? statement.operation with
  | none =>
      .fail (.internal ("no handler registered for operation '" ++ statement.operation ++ "'"))
  | some operation =>
      match Selection.ofNames (statement.fields.getD []) with
      | .error name => .refuse statement.operation (.unknownField name)
      | .ok selection => .ofOperation operation scope statement selection

end IssueQuery
