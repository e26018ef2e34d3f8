import IssueQuery.Operation.Dispatch
import IssueQuery.Query.Reader

namespace IssueQuery

/-! Carrying out queries. -/

variable {m : Type → Type} [Monad m]

def Statement.execute (answer : (call : Call) → m (Except ServiceError call.Answer))
    (scope : Scope) (statement : Statement) : m (Except QueryError Value) :=
  (statement.handler scope).run answer

/-- Carries out statements one after the other, the first with number `index`.
The first that fails ends the batch, and its error is reported with its number. -/
def executeStatements (answer : (call : Call) → m (Except ServiceError call.Answer))
    (scope : Scope) (index : Nat) : List Statement → m (Except QueryError (List Value))
  | [] => pure (.ok [])
  | statement :: rest => do
      match ← statement.execute answer scope with
      | .error cause => return .error (.statement statement.operation index cause)
      | .ok value =>
          match ← executeStatements answer scope (index + 1) rest with
          | .error error => return .error error
          | .ok values => return .ok (value :: values)

/-- Carries out a query: one result for each statement, in order. -/
def Query.execute (answer : (call : Call) → m (Except ServiceError call.Answer))
    (scope : Scope) (query : Query) : m (Except QueryError (List Value)) :=
  executeStatements answer scope 0 query.statements

end IssueQuery
