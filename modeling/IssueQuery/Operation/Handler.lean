import IssueQuery.Operation.Refusal
import IssueQuery.Service.Call

namespace IssueQuery

/-! Handlers: what carries out an operation.

A handler asks a service, one call after the other, where later calls may depend
on earlier answers.  The first call that fails ends it with the error of the
service.  A handler can also fail by itself, at any time: before it has asked
anything, or behind an answer. -/

inductive Handler (Result : Type) where
  | done (result : Result)
  | fail (error : QueryError)
  | ask (call : Call) (next : call.Answer → Handler Result)

namespace Handler

variable {First Second Result : Type}

/-- One handler and then another that depends on its result. -/
def bind : Handler First → (First → Handler Second) → Handler Second
  | .done result, next => next result
  | .fail error, _ => .fail error
  | .ask call following, next => .ask call fun answer => (following answer).bind next

instance : Monad Handler where
  pure := .done
  bind := bind

/-- Refuses a statement under the name of an operation. -/
def refuse (operation : String) (refusal : Refusal) : Handler Result :=
  .fail (refusal.toError operation)

/-- Goes on with what has passed a check. -/
def check (operation : String) : Except Refusal Result → Handler Result
  | .ok result => .done result
  | .error refusal => refuse operation refusal

def fetch (call : Call) : Handler call.Answer := .ask call .done

def run {m : Type → Type} [Monad m]
    (answer : (call : Call) → m (Except ServiceError call.Answer)) :
    Handler Result → m (Except QueryError Result)
  | .done result => pure (.ok result)
  | .fail error => pure (.error error)
  | .ask call next => do
      match ← answer call with
      | .error cause => return .error (.service cause)
      | .ok value => (next value).run answer

end Handler

end IssueQuery
