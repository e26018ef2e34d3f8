import IssueQuery.Proofs.Plans
import Mathlib.Control.Lawful

namespace IssueQuery

/-! What was asked, and what was answered to it.

A conversation is written down by asking through a scribe, who asks the same and
passes the answers on.
-/

/-- Questions with their answers, in the order in which they were asked. -/
abbrev Transcript {Question : Type} (Answer : Question → Type) :=
  List ((question : Question) × Answer question)

/-- The same answers, which are written down. -/
def transcribed {m : Type → Type} [Monad m] {Question : Type} {Answer : Question → Type}
    (ask : (question : Question) → m (Answer question)) (question : Question) :
    StateT (Transcript Answer) m (Answer question) := do
  let answer ← ask question
  modify (· ++ [⟨question, answer⟩])
  return answer

/-- What comes of a call. -/
abbrev Call.Outcome (call : Call) := Except ServiceError call.Answer

namespace Plan

variable {Result : Type}

section Steps

variable {State : Type} {answer : (call : Call) → StateM State call.Outcome} {call : Call}
  {next : call.Answer → Plan Result} {before : Transcript Call.Outcome} {state after : State}
  {cause : ServiceError}

theorem run_ask_of_error (answered : Id.run ((answer call).run state) = (.error cause, after)) :
    (Id.run ((((ask call next).run (transcribed answer)).run before).run state)).1 =
      (.error cause, before ++ [⟨call, .error cause⟩]) := by
  simp [run, transcribed, answered]

theorem run_ask_of_ok {found : call.Answer}
    (answered : Id.run ((answer call).run state) = (.ok found, after)) :
    (Id.run ((((ask call next).run (transcribed answer)).run before).run state)).1 =
      (Id.run ((((next found).run (transcribed answer)).run
        (before ++ [⟨call, .ok found⟩])).run after)).1 := by
  simp [run, transcribed, answered]

end Steps

/-- The error of a plan is the answer to one of its calls. -/
theorem error_mem_transcript {State : Type} {plan : Plan Result}
    {answer : (call : Call) → StateM State call.Outcome} {before : Transcript Call.Outcome}
    {state : State} {cause : ServiceError}
    (failed : (Id.run (((plan.run (transcribed answer)).run before).run state)).1.1 =
      .error cause) :
    ∃ call, ⟨call, .error cause⟩ ∈
      (Id.run (((plan.run (transcribed answer)).run before).run state)).1.2 := by
  induction plan generalizing before state with
  | done result => cases failed
  | ask call next ih =>
      cases answered : Id.run ((answer call).run state) with
      | mk outcome after =>
          cases outcome with
          | error reason =>
              rw [run_ask_of_error answered] at failed ⊢
              cases failed
              exact ⟨call, List.mem_append_right _ (List.mem_singleton_self _)⟩
          | ok found =>
              rw [run_ask_of_ok answered] at failed ⊢
              exact ih found failed

/-- The outcome of a plan and the calls it makes do not depend on the calls made
before. -/
theorem run_logged (service : Service) (plan : Plan Result) (log : List Call) :
    Id.run ((plan.run service.logged).run log) =
      ((Id.run ((plan.run service.logged).run [])).1,
        log ++ (Id.run ((plan.run service.logged).run [])).2) := by
  induction plan generalizing log with
  | done result => simp [run]
  | ask call next ih =>
      cases answered : service call with
      | error cause => simp [run, Service.logged, answered]
      | ok found =>
          have step (log : List Call) : Id.run (((ask call next).run service.logged).run log) =
              Id.run (((next found).run service.logged).run (log ++ [call])) := by
            simp [run, Service.logged, answered]
          rw [step log, step [], ih found (log ++ [call]), List.nil_append, ih found [call]]
          simp

end Plan

end IssueQuery
