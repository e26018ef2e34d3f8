import IssueQuery.Proofs.Plans
import IssueQuery.Query.Execution

namespace IssueQuery

/-! Tasks: statements that have passed every check, with everything resolved.

Turning a statement into a task asks nothing of the service, and carrying out a
task refuses nothing any more.  Every handler comes to that: it judges its
statement first, and then carries out the task, if there is one. -/

inductive Task where
  | get (key : String) (selection : Selection)
  | list (criteria : Criteria) (order : Option Order) (window : Window) (selection : Selection)
  | count (criteria : Criteria)
  | summary (project : Option String) (board : Option UInt64)
  | search (text : String) (selection : Selection)
  | schema
deriving DecidableEq, Repr

namespace Statement

def getTask (statement : Statement) (selection : Selection) : Except Refusal Task := do
  statement.checkNames fun _ => false
  match statement.positional with
  | [] => throw .missingKey
  | first :: others =>
      match Text.nonblank? first with
      | none => throw .missingKey
      | some key => if others.isEmpty then return .get key selection else throw .secondKey

def listTask (scope : Scope) (statement : Statement) (selection : Selection) :
    Except Refusal Task := do
  statement.checkNames isListArgument
  let criteria ← Criteria.ofStatement scope statement
  let order ← Order.ofArguments statement.named
  let window ← Window.ofStatement statement
  return .list criteria order window selection

/-- Order and window of a count are checked, and then have no effect. -/
def countTask (scope : Scope) (statement : Statement) : Except Refusal Task := do
  statement.checkNames isListArgument
  let _ ← Order.ofArguments statement.named
  let _ ← Window.ofStatement statement
  let criteria ← Criteria.ofStatement scope statement
  return .count criteria

def summaryTask (scope : Scope) (statement : Statement) : Except Refusal Task := do
  statement.checkNames fun name => name == "project" || name == "board"
  statement.checkPositional
  let project := statement.projectIn? scope
  let board ← statement.boardIn? scope
  if project.isNone && board.isNone then throw .missingScope
  return .summary project board

def searchTask (statement : Statement) (selection : Selection) : Except Refusal Task := do
  statement.checkNames (· == "jql")
  statement.checkPositional
  match (statement.value? "jql").or statement.positional.head? with
  | none => throw .missingSearch
  | some text =>
      if (Text.nonblank? text).isNone then throw .missingSearch
      return .search text selection

def schemaTask (statement : Statement) : Except Refusal Task := do
  statement.checkNames fun _ => false
  return .schema

/-- The task of a statement that calls a known operation. -/
def taskOf (operation : Operation) (scope : Scope) (statement : Statement) :
    Except Refusal Task := do
  let selection ←
    match Selection.ofNames (statement.fields.getD []) with
    | .ok selection => pure selection
    | .error name => throw (.unknownField name)
  match operation with
  | .get => statement.getTask selection
  | .list => statement.listTask scope selection
  | .count => statement.countTask scope
  | .summary => statement.summaryTask scope
  | .search => statement.searchTask selection
  | .schema => statement.schemaTask

/-- The task of a statement, or why there is none. -/
def task (scope : Scope) (statement : Statement) : Except QueryError Task :=
  match Operation.ofName? statement.operation with
  | none =>
      .error (.internal
        ("no handler registered for operation '" ++ statement.operation ++ "'"))
  | some operation =>
      match statement.taskOf operation scope with
      | .ok task => .ok task
      | .error refusal => .error (refusal.toError statement.operation)

end Statement

namespace Task

def listPlan (criteria : Criteria) (order : Option Order) (window : Window)
    (selection : Selection) : Plan Value :=
  let further := criteria.fields ++ (order.map (·.field)).toList
  .ask (.issues criteria.filter (selection.serviceFieldsWith further)) fun issues =>
    .done (Handler.showIssues selection (Handler.shownIssues criteria order window issues))

def countPlan (criteria : Criteria) : Plan Value :=
  let fields := Field.serviceNames (Handler.tallied ++ criteria.fields)
  .ask (.issues criteria.filter fields) fun issues =>
    .done (.ofRecord (.ofList [("count", .ofNat (issues.filter criteria.admits).length)]))

def projectPlan : Option String → Plan (List (String × Value))
  | none => .done []
  | some key =>
      .ask (.project key) fun project =>
        .ask (.issues (Filter.ofProject key) (Field.serviceNames Handler.tallied)) fun issues =>
          .done (Handler.projectEntries project issues)

def boardPlan : Option UInt64 → Plan (List (String × Value))
  | none => .done []
  | some id => .ask (.board id) fun board => .done (Handler.boardEntries board)

def summaryPlan (project : Option String) (board : Option UInt64) : Plan Value :=
  (projectPlan project).bind fun ofProject =>
    (boardPlan board).map fun ofBoard => .ofRecord (.ofList (ofProject ++ ofBoard))

/-- What a task asks of the service, and its result. -/
def plan : Task → Plan Value
  | .get key selection =>
      .ask (.issue key selection.serviceFields) fun issue =>
        .done (.ofRecord (selection.project issue))
  | .list criteria order window selection => listPlan criteria order window selection
  | .count criteria => countPlan criteria
  | .summary project board => summaryPlan project board
  | .search text selection =>
      .ask (.search text selection.serviceFields) fun issues =>
        .done (Handler.showIssues selection issues)
  | .schema => .done (.ofJson Manual.current.toJson.sorted)

end Task

namespace Handler

/-- What is left to do once a statement has been judged. -/
def ofVerdict (operation : String) : Except Refusal Task → Handler Value
  | .ok task => .ofPlan task.plan
  | .error refusal => .refuse operation refusal

section Checks

variable {Passed : Type} {operation : String} {checked : Except Refusal Passed}
  {next : Passed → Handler Value} {judge : Passed → Except Refusal Task}

/-- A check stands in front of what it stands in front of in the judgement. -/
theorem check_bind (same : ∀ passed, next passed = ofVerdict operation (judge passed)) :
    check operation checked >>= next = ofVerdict operation (checked >>= judge) := by
  cases checked with
  | error refusal => rfl
  | ok passed => exact same passed

end Checks

section Operations

variable {scope : Scope} {statement : Statement} {selection : Selection}

/-- The name under which `get` refuses a statement is the one that the statement calls. -/
theorem get_eq (called : statement.operation = "get") :
    get statement selection = ofVerdict statement.operation (statement.getTask selection) := by
  refine check_bind fun _ => ?_
  rw [called]
  cases statement.positional with
  | nil => rfl
  | cons first others =>
      dsimp only
      cases Text.nonblank? first with
      | none => rfl
      | some key => cases others <;> rfl

theorem list_eq :
    list scope statement selection =
      ofVerdict statement.operation (statement.listTask scope selection) :=
  check_bind fun _ => check_bind fun _ => check_bind fun _ => check_bind fun _ => rfl

theorem count_eq :
    count scope statement = ofVerdict statement.operation (statement.countTask scope) :=
  check_bind fun _ => check_bind fun _ => check_bind fun _ => check_bind fun _ => rfl

theorem summary_eq :
    summary scope statement = ofVerdict statement.operation (statement.summaryTask scope) := by
  refine check_bind fun _ => check_bind fun _ => check_bind fun board => ?_
  cases statement.projectIn? scope <;> cases board <;> rfl

theorem search_eq (called : statement.operation = "search") :
    search statement selection =
      ofVerdict statement.operation (statement.searchTask selection) := by
  refine check_bind fun _ => check_bind fun _ => ?_
  rw [called]
  cases (statement.value? "jql").or statement.positional.head? with
  | none => rfl
  | some text =>
      dsimp only
      cases Text.nonblank? text <;> rfl

theorem schema_eq :
    schema statement = ofVerdict statement.operation statement.schemaTask :=
  check_bind fun _ => rfl

theorem ofOperation_eq {operation : Operation} (called : operation.name = statement.operation)
    (chosen : Selection.ofNames (statement.fields.getD []) = .ok selection) :
    ofOperation operation scope statement selection =
      ofVerdict statement.operation (statement.taskOf operation scope) := by
  rw [Statement.taskOf, chosen]
  cases operation with
  | get => exact get_eq called.symm
  | list => exact list_eq
  | count => exact count_eq
  | summary => exact summary_eq
  | search => exact search_eq called.symm
  | schema => exact schema_eq

end Operations

end Handler

namespace Statement

/-- A statement is judged before anything is asked for it, and is not refused any
more behind an answer. -/
theorem handler_eq (scope : Scope) (statement : Statement) :
    statement.handler scope =
      match statement.task scope with
      | .ok task => .ofPlan task.plan
      | .error error => .fail error := by
  unfold handler task
  cases known : Operation.ofName? statement.operation with
  | none => rfl
  | some operation =>
      dsimp only
      cases chosen : Selection.ofNames (statement.fields.getD []) with
      | error name =>
          rw [taskOf, chosen]
          rfl
      | ok selection =>
          dsimp only
          rw [Handler.ofOperation_eq (Operation.name_of_ofName? known) chosen]
          cases statement.taskOf operation scope <;> rfl

section Execution

variable {m : Type → Type} [Monad m]
  {answer : (call : Call) → m (Except ServiceError call.Answer)} {scope : Scope}
  {statement : Statement}

theorem execute_refused {error : QueryError} (refused : statement.task scope = .error error) :
    statement.execute answer scope = pure (.error error) := by
  rw [execute, handler_eq, refused]
  rfl

theorem execute_accepted [LawfulMonad m] {task : Task}
    (accepted : statement.task scope = .ok task) :
    statement.execute answer scope = Except.mapError .service <$> task.plan.run answer := by
  rw [execute, handler_eq, accepted]
  exact Handler.run_ofPlan answer task.plan

end Execution

end Statement

end IssueQuery
