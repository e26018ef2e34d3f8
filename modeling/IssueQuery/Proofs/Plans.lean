import IssueQuery.Operation.Handler

namespace IssueQuery

/-! Plans: handlers that do not fail by themselves. -/

inductive Plan (Result : Type) where
  | done (result : Result)
  | ask (call : Call) (next : call.Answer → Plan Result)

namespace Plan

variable {First Second Result : Type}

/-- One plan and then another that depends on its result. -/
def bind : Plan First → (First → Plan Second) → Plan Second
  | .done result, next => next result
  | .ask call following, next => .ask call fun answer => (following answer).bind next

def map (transform : First → Second) (plan : Plan First) : Plan Second :=
  plan.bind fun result => .done (transform result)

def run {m : Type → Type} [Monad m]
    (answer : (call : Call) → m (Except ServiceError call.Answer)) :
    Plan Result → m (Except ServiceError Result)
  | .done result => pure (.ok result)
  | .ask call next => do
      match ← answer call with
      | .error cause => return .error cause
      | .ok value => (next value).run answer

end Plan

namespace Handler

variable {Result : Type}

def ofPlan : Plan Result → Handler Result
  | .done result => .done result
  | .ask call next => .ask call fun answer => ofPlan (next answer)

/-- The only errors of a plan are those of the service. -/
theorem run_ofPlan {m : Type → Type} [Monad m] [LawfulMonad m]
    (answer : (call : Call) → m (Except ServiceError call.Answer)) (plan : Plan Result) :
    (ofPlan plan).run answer = Except.mapError .service <$> plan.run answer := by
  induction plan with
  | done result =>
      rw [ofPlan, run, Plan.run, map_pure]
      rfl
  | ask call next ih =>
      rw [ofPlan, run, Plan.run, map_bind]
      apply bind_congr
      intro outcome
      cases outcome with
      | error cause =>
          dsimp only
          rw [map_pure]
          rfl
      | ok value => exact ih value

end Handler

end IssueQuery
