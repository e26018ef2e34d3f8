import IssueQuery.Proofs.Tasks
import IssueQuery.Proofs.Transcript

namespace IssueQuery

/-! Refused statements.

A statement is judged before anything is asked for it.  Whether it is refused,
and with which error, depends on what it says and on the scope it is read in; an
accepted statement can only fail with an error of the service.
-/

/-- Whether an error blames the statement or the program, and not the service. -/
def QueryError.IsRefusal : QueryError → Prop
  | .invalid .. => True
  | .internal _ => True
  | .malformed .. => False
  | .service _ => False
  | .statement .. => False

/-- A service that may change whenever it is asked. -/
structure ChangingService where
  State : Type
  start : State
  answer : (call : Call) → StateM State call.Outcome

namespace Statement

variable {scope : Scope} {statement : Statement} {error : QueryError} {task : Task}

/-- Either no operation has the name of the statement, or its operation finds it
invalid. -/
theorem error_of_task (refused : statement.task scope = .error error) :
    (Operation.ofName? statement.operation = none ∧ ∃ detail, error = .internal detail) ∨
      ∃ argument message, error = .invalid statement.operation argument message := by
  unfold Statement.task at refused
  split at refused
  · rename_i unknown
    cases refused
    exact .inl ⟨unknown, _, rfl⟩
  · split at refused
    · cases refused
    · cases refused
      exact .inr ⟨_, _, rfl⟩

theorem isRefusal_of_task (refused : statement.task scope = .error error) : error.IsRefusal := by
  rcases error_of_task refused with ⟨-, detail, rfl⟩ | ⟨argument, message, rfl⟩ <;> trivial

/-- What comes of a statement, and everything that was asked and answered. -/
def attempt (service : ChangingService) (scope : Scope) (statement : Statement) :
    Except QueryError Value × Transcript Call.Outcome :=
  (Id.run (((statement.execute (transcribed service.answer) scope).run []).run service.start)).1

theorem attempt_refused (service : ChangingService)
    (refused : statement.task scope = .error error) :
    statement.attempt service scope = (.error error, []) := by
  rw [attempt, execute_refused refused]
  rfl

/-- An accepted statement that fails passes on the answer to one of its calls. -/
theorem attempt_accepted {service : ChangingService} (accepted : statement.task scope = .ok task)
    (failed : (statement.attempt service scope).1 = .error error) :
    ∃ call cause, error = .service cause ∧
      ⟨call, .error cause⟩ ∈ (statement.attempt service scope).2 := by
  simp only [attempt, execute_accepted accepted, StateT.run_map, Id.run_map] at failed ⊢
  cases outcome : (Id.run (((task.plan.run (transcribed service.answer)).run []).run
      service.start)).1.1 with
  | error cause =>
      obtain ⟨call, answered⟩ := Plan.error_mem_transcript outcome
      rw [outcome] at failed
      cases failed
      exact ⟨call, cause, rfl, answered⟩
  | ok value =>
      rw [outcome] at failed
      cases failed

theorem attempt_eq_refusal_iff (service : ChangingService) (refusal : error.IsRefusal) :
    (statement.attempt service scope).1 = .error error ↔ statement.task scope = .error error := by
  constructor
  · intro failed
    cases judged : statement.task scope with
    | error verdict =>
        rw [attempt_refused service judged] at failed
        cases failed
        rfl
    | ok task =>
        obtain ⟨call, cause, rfl, -⟩ := attempt_accepted judged failed
        exact refusal.elim
  · intro refused
    rw [attempt_refused service refused]

/-- Two services agree on whether a statement is refused and with which error,
since neither is asked; any other error is one that the service has answered. -/
theorem refused_before_asking (first second : ChangingService) (scope : Scope)
    (statement : Statement) (error : QueryError) :
    (error.IsRefusal →
      ((statement.attempt first scope).1 = .error error ↔
        (statement.attempt second scope).1 = .error error) ∧
      ((statement.attempt first scope).1 = .error error →
        (statement.attempt first scope).2 = [] ∧ (statement.attempt second scope).2 = [])) ∧
    (¬ error.IsRefusal → (statement.attempt first scope).1 = .error error →
      ∃ call cause, error = .service cause ∧
        ⟨call, .error cause⟩ ∈ (statement.attempt first scope).2) := by
  refine ⟨fun refusal => ⟨?_, fun failed => ?_⟩, fun notRefusal failed => ?_⟩
  · rw [attempt_eq_refusal_iff first refusal, attempt_eq_refusal_iff second refusal]
  · have refused := (attempt_eq_refusal_iff first refusal).mp failed
    rw [attempt_refused first refused, attempt_refused second refused]
    exact ⟨rfl, rfl⟩
  · cases judged : statement.task scope with
    | error verdict =>
        rw [attempt_refused first judged] at failed
        cases failed
        exact absurd (isRefusal_of_task judged) notRefusal
    | ok task => exact attempt_accepted judged failed

/-- A service that knows one project and breaks off behind the first call. -/
def breakingOff : ChangingService where
  State := Bool
  start := true
  answer call connected :=
    (if connected then Store.service { projects := [{ key := "A" }] } call
      else .error (.transport "connection reset"), false)

def summaryOfA (further : List Argument) : Statement :=
  ⟨"summary", ⟨some "project", "A"⟩ :: further, none⟩

/-- With a bad board a summary is refused although its project is known; without
one it fails with the second answer. -/
theorem summaries_refused_and_broken_off :
    (summaryOfA [⟨some "board", "zero"⟩]).attempt breakingOff {} =
        (.error (.invalid "summary" (some "board") "invalid board ID: zero"), []) ∧
      ∃ call cause, QueryError.service (.transport "connection reset") = .service cause ∧
        ⟨call, .error cause⟩ ∈ ((summaryOfA []).attempt breakingOff {}).2 := by
  constructor
  · obtain ⟨agreed, unasked⟩ := (refused_before_asking breakingOff
      ⟨Unit, (), fun call => pure (Service.offline call)⟩ {} (summaryOfA [⟨some "board", "zero"⟩])
      (.invalid "summary" (some "board") "invalid board ID: zero")).1 trivial
    have refused := agreed.mpr rfl
    exact Prod.ext refused (unasked refused).1
  · refine (refused_before_asking breakingOff breakingOff {} (summaryOfA []) _).2 id ?_
    have handled : (summaryOfA []).handler {} = .ask (.project "A") fun project =>
        .ask (.issues (Filter.ofProject "A") ["status", "issuetype"]) fun issues =>
          .done (.ofRecord (.ofList (Handler.projectEntries project issues))) := rfl
    rw [attempt, execute, handled]
    simp only [Handler.run]
    rfl

end Statement

end IssueQuery
