import IssueQuery.Failure.Envelope
import IssueQuery.Proofs.Refusals
import Mathlib.Data.List.Forall2

namespace IssueQuery

/-! Batches.

A query does what its statements do one after the other, each as if it stood
alone, up to the first that fails.
-/

/-- What comes of a query, and the calls it makes. -/
def Query.logged (service : Service) (scope : Scope) (query : Query) :
    Except QueryError (List Value) × List Call :=
  Id.run ((query.execute service.logged scope).run [])

namespace Statement

/-- What comes of a query of one statement, and the calls it makes. -/
def alone (service : Service) (scope : Scope) (statement : Statement) :
    Except QueryError (List Value) × List Call :=
  Query.logged service scope ⟨[statement]⟩

/-- What comes of a statement in a query, and the calls it makes. -/
def logged (service : Service) (scope : Scope) (statement : Statement) :
    Except QueryError Value × List Call :=
  Id.run ((statement.execute service.logged scope).run [])

end Statement

variable {service : Service} {scope : Scope}

section Step

variable {State : Type} {answer : (call : Call) → StateM State call.Outcome} {statement : Statement}
  {before between : State} (index : Nat) (rest : List Statement)

theorem run_executeStatements_of_error {cause : QueryError}
    (failed : Id.run ((statement.execute answer scope).run before) = (.error cause, between)) :
    Id.run ((executeStatements answer scope index (statement :: rest)).run before) =
      (.error (.statement statement.operation index cause), between) := by
  simp [executeStatements, failed]

theorem run_executeStatements_of_ok {value : Value} {outcome : Except QueryError (List Value)}
    {after : State}
    (returned : Id.run ((statement.execute answer scope).run before) = (.ok value, between))
    (ran : Id.run ((executeStatements answer scope (index + 1) rest).run between) =
      (outcome, after)) :
    Id.run ((executeStatements answer scope index (statement :: rest)).run before) =
      (outcome.map (value :: ·), after) := by
  cases outcome <;> simp [executeStatements, returned, ran, Except.map]

/-- The results of a batch are those that its statements return, one for each. -/
theorem forall₂_of_executeStatements {statements : List Statement} {values : List Value}
    {index : Nat} {before after : State}
    (ran : Id.run ((executeStatements answer scope index statements).run before) =
      (.ok values, after)) :
    List.Forall₂ (fun statement value => ∃ start finish,
      Id.run ((statement.execute answer scope).run start) = (.ok value, finish))
      statements values := by
  induction statements generalizing index values before with
  | nil =>
      cases ran
      exact .nil
  | cons statement rest ih =>
      cases first : Id.run ((statement.execute answer scope).run before) with
      | mk outcome between =>
          cases outcome with
          | error cause =>
              rw [run_executeStatements_of_error index rest first] at ran
              cases ran
          | ok value =>
              cases others : Id.run
                  ((executeStatements answer scope (index + 1) rest).run between) with
              | mk remaining final =>
                  rw [run_executeStatements_of_ok index rest first others] at ran
                  cases remaining with
                  | error error => cases ran
                  | ok more =>
                      cases ran
                      exact .cons ⟨before, between, first⟩ (ih others)

end Step

namespace Statement

variable {statement : Statement} (log : List Call)

theorem run_execute_logged (statement : Statement) :
    Id.run ((statement.execute service.logged scope).run log) =
      ((statement.logged service scope).1, log ++ (statement.logged service scope).2) := by
  cases judged : statement.task scope with
  | error verdict => simp [logged, execute_refused judged]
  | ok task =>
      simp only [logged, execute_accepted judged, StateT.run_map, Id.run_map]
      rw [Plan.run_logged]

theorem run_execute_of_error {cause : QueryError}
    (failed : (statement.logged service scope).1 = .error cause) :
    Id.run ((statement.execute service.logged scope).run log) =
      (.error cause, log ++ (statement.logged service scope).2) := by
  rw [run_execute_logged, failed]

theorem run_execute_of_ok {value : Value}
    (returned : (statement.logged service scope).1 = .ok value) :
    Id.run ((statement.execute service.logged scope).run log) =
      (.ok value, log ++ (statement.logged service scope).2) := by
  rw [run_execute_logged, returned]

end Statement

theorem run_executeStatements_succeeded {statements : List Statement}
    (succeeded : ∀ statement ∈ statements, ∃ value, (statement.logged service scope).1 = .ok value) :
    ∃ values,
      List.Forall₂ (fun statement value => (statement.logged service scope).1 = .ok value)
        statements values ∧
      ∀ index log, Id.run ((executeStatements service.logged scope index statements).run log) =
        (.ok values, log ++ statements.flatMap fun statement => (statement.logged service scope).2) := by
  induction statements with
  | nil => exact ⟨[], .nil, fun index log => by simp [executeStatements]⟩
  | cons statement rest ih =>
      obtain ⟨value, returned⟩ := succeeded statement List.mem_cons_self
      obtain ⟨values, matched, ran⟩ := ih fun other member =>
        succeeded other (List.mem_cons_of_mem _ member)
      refine ⟨value :: values, .cons returned matched, fun index log => ?_⟩
      rw [run_executeStatements_of_ok index rest (Statement.run_execute_of_ok log returned)
        (ran (index + 1) _), List.flatMap_cons, List.append_assoc]
      rfl

theorem run_executeStatements_failed {earlier : List Statement} {failing : Statement}
    {cause : QueryError}
    (succeeded : ∀ statement ∈ earlier, ∃ value, (statement.logged service scope).1 = .ok value)
    (failed : (failing.logged service scope).1 = .error cause) (later : List Statement)
    (index : Nat) (log : List Call) :
    Id.run ((executeStatements service.logged scope index (earlier ++ failing :: later)).run log) =
      (.error (.statement failing.operation (index + earlier.length) cause),
        log ++ (earlier ++ [failing]).flatMap fun statement => (statement.logged service scope).2) := by
  induction earlier generalizing index log with
  | nil =>
      simpa using run_executeStatements_of_error index later
        (Statement.run_execute_of_error log failed)
  | cons statement rest ih =>
      obtain ⟨value, returned⟩ := succeeded statement List.mem_cons_self
      have ran := ih (fun other member => succeeded other (List.mem_cons_of_mem _ member))
        (index + 1) (log ++ (statement.logged service scope).2)
      rw [List.cons_append, run_executeStatements_of_ok index _
        (Statement.run_execute_of_ok log returned) ran, List.cons_append, List.flatMap_cons,
        List.append_assoc, List.length_cons, Nat.add_assoc, Nat.add_comm 1]
      rfl

namespace Statement

variable {statement : Statement}

theorem alone_eq (statement : Statement) :
    statement.alone service scope =
      (match (statement.logged service scope).1 with
        | .error cause => .error (.statement statement.operation 0 cause)
        | .ok value => .ok [value],
      (statement.logged service scope).2) := by
  cases outcome : (statement.logged service scope).1 with
  | error cause => exact run_executeStatements_of_error 0 [] (run_execute_of_error [] outcome)
  | ok value => exact run_executeStatements_of_ok 0 [] (run_execute_of_ok [] outcome) rfl

@[simp] theorem alone_calls :
    (statement.alone service scope).2 = (statement.logged service scope).2 := by
  rw [alone_eq]

theorem alone_eq_ok_iff {results : List Value} :
    (statement.alone service scope).1 = .ok results ↔
      ∃ value, results = [value] ∧ (statement.logged service scope).1 = .ok value := by
  rw [alone_eq]
  cases (statement.logged service scope).1 <;> simp [eq_comm]

theorem alone_eq_error_iff {error : QueryError} :
    (statement.alone service scope).1 = .error error ↔
      ∃ cause, error = .statement statement.operation 0 cause ∧
        (statement.logged service scope).1 = .error cause := by
  rw [alone_eq]
  cases (statement.logged service scope).1 <;> simp [eq_comm]

/-- The errors that a statement can end in. -/
theorem error_of_logged {cause : QueryError}
    (failed : (statement.logged service scope).1 = .error cause) :
    (∃ detail, cause = .internal detail) ∨ (∃ inner, cause = .service inner) ∨
      ∃ argument message, cause = .invalid statement.operation argument message := by
  cases judged : statement.task scope with
  | error verdict =>
      rw [logged, execute_refused judged] at failed
      cases failed
      rcases error_of_task judged with ⟨-, isInternal⟩ | isInvalid
      · exact .inl isInternal
      · exact .inr (.inr isInvalid)
  | ok task =>
      rw [logged, execute_accepted judged, StateT.run_map, Id.run_map] at failed
      cases outcome : (Id.run ((task.plan.run service.logged).run [])).1 with
      | error inner =>
          rw [outcome] at failed
          cases failed
          exact .inr (.inl ⟨inner, rfl⟩)
      | ok value =>
          rw [outcome] at failed
          cases failed

end Statement

/-- A failed statement and its cause say the same of the operation. -/
theorem Report.operation_of_failed {statement : Statement} {cause : QueryError}
    (failed : (statement.logged service scope).1 = .error cause) (index : Nat) :
    (detailsOf (.statement statement.operation index cause)).lookup "operation" =
        some (.string statement.operation) ∧
      ∀ told ∈ (detailsOf cause).lookup "operation", told = .string statement.operation := by
  rcases Statement.error_of_logged failed with
    ⟨detail, rfl⟩ | ⟨inner, rfl⟩ | ⟨argument, message, rfl⟩
  · simp [detailsOf, QueryError.root, Json.lookup_sortMembers, Json.lookup_cons_if]
  · cases inner <;>
      simp [detailsOf, QueryError.root, Json.lookup_sortMembers, Json.lookup_cons_if]
  · cases argument <;>
      simp [detailsOf, QueryError.root, Json.lookup_sortMembers, Json.lookup_cons_if]

/-- A query is carried out as its statements are alone, one after the other.  If
all succeed, so does it, with their results and their calls in order.  The first
that fails ends it: the error is that of the statement alone, with its number,
and nothing is asked any more. -/
theorem Query.carried_out_in_turn (service : Service) (scope : Scope) (query : Query) :
    ((∀ statement ∈ query.statements, ∃ results,
        (statement.alone service scope).1 = .ok results) →
      ∃ results,
        query.logged service scope =
          (.ok results, query.statements.flatMap fun statement =>
            (statement.alone service scope).2) ∧
        List.Forall₂ (fun statement result => (statement.alone service scope).1 = .ok [result])
          query.statements results) ∧
    ∀ earlier failing later error, query.statements = earlier ++ failing :: later →
      (∀ statement ∈ earlier, ∃ results, (statement.alone service scope).1 = .ok results) →
      (failing.alone service scope).1 = .error error →
      ∃ cause,
        error = .statement failing.operation 0 cause ∧
        query.logged service scope =
          (.error (.statement failing.operation earlier.length cause),
            (earlier ++ [failing]).flatMap fun statement => (statement.alone service scope).2) ∧
        (∀ operation index inner, cause ≠ .statement operation index inner) ∧
        (∀ operation argument message, cause = .invalid operation argument message →
          operation = failing.operation) ∧
        (Report.detailsOf (.statement failing.operation earlier.length cause)).lookup "operation" =
          some (.string failing.operation) ∧
        ∀ told ∈ (Report.detailsOf cause).lookup "operation", told = .string failing.operation := by
  have succeeds : ∀ statement : Statement,
      (∃ results, (statement.alone service scope).1 = .ok results) →
        ∃ value, (statement.logged service scope).1 = .ok value := by
    rintro statement ⟨results, returned⟩
    obtain ⟨value, -, returned⟩ := Statement.alone_eq_ok_iff.mp returned
    exact ⟨value, returned⟩
  constructor
  · intro succeeded
    obtain ⟨values, matched, ran⟩ := run_executeStatements_succeeded
      fun statement member => succeeds statement (succeeded statement member)
    refine ⟨values, ?_, matched.imp fun statement value returned => ?_⟩
    · simpa [Query.logged, Query.execute] using ran 0 []
    · exact Statement.alone_eq_ok_iff.mpr ⟨value, rfl, returned⟩
  · intro earlier failing later error split succeeded failed
    obtain ⟨cause, same, raised⟩ := Statement.alone_eq_error_iff.mp failed
    have ran := run_executeStatements_failed
      (fun statement member => succeeds statement (succeeded statement member)) raised later 0 []
    have unwrapped : (∀ operation index inner, cause ≠ .statement operation index inner) ∧
        ∀ operation argument message, cause = .invalid operation argument message →
          operation = failing.operation := by
      rcases Statement.error_of_logged raised with
        ⟨detail, rfl⟩ | ⟨inner, rfl⟩ | ⟨argument, message, rfl⟩ <;> simp_all
    refine ⟨cause, same, ?_, unwrapped.1, unwrapped.2,
      Report.operation_of_failed raised earlier.length⟩
    simpa [Query.logged, Query.execute, split] using ran

/-- A service that knows one issue. -/
def knowingOne : Service := Store.service { issues := [{ key := "A-1" }] }

def getKey (key : String) : Statement := ⟨"get", [⟨none, key⟩], some ["key", "status"]⟩

def askForKey (key : String) : Handler Value :=
  .ask (.issue key ["status"]) fun issue =>
    .done (.ofRecord (Selection.project ⟨[.key, .status], false⟩ issue))

/-- The second of three statements fails, and the third asks nothing. -/
theorem Query.unknown_issue_stops :
    Query.logged knowingOne {} ⟨[getKey "A-1", getKey "A-2", getKey "A-1"]⟩ =
        (.error (.statement "get" 1 (.service (.notFound "issue A-2"))),
          [.issue "A-1" ["status"], .issue "A-2" ["status"]]) ∧
      ∃ results, Query.logged knowingOne {} ⟨[getKey "A-1", getKey "A-1"]⟩ =
        (.ok results, [.issue "A-1" ["status"], .issue "A-1" ["status"]]) := by
  have handledFirst : (getKey "A-1").handler {} = askForKey "A-1" := rfl
  have handledSecond : (getKey "A-2").handler {} = askForKey "A-2" := rfl
  have first : (getKey "A-1").alone knowingOne {} =
      (.ok [.record [("key", .text "A-1"), ("status", .null)]], [.issue "A-1" ["status"]]) := by
    simp only [Statement.alone, Query.logged, Query.execute, executeStatements, Statement.execute,
      handledFirst, askForKey, Handler.run]
    rfl
  have second : (getKey "A-2").alone knowingOne {} =
      (.error (.statement "get" 0 (.service (.notFound "issue A-2"))),
        [.issue "A-2" ["status"]]) := by
    simp only [Statement.alone, Query.logged, Query.execute, executeStatements, Statement.execute,
      handledSecond, askForKey, Handler.run]
    rfl
  have known : ∃ results, ((getKey "A-1").alone knowingOne {}).1 = .ok results := by
    rw [first]
    exact ⟨_, rfl⟩
  constructor
  · obtain ⟨cause, same, ran, -⟩ := (carried_out_in_turn knowingOne {}
      ⟨[getKey "A-1", getKey "A-2", getKey "A-1"]⟩).2 [getKey "A-1"] (getKey "A-2")
      [getKey "A-1"] _ rfl (by simpa using known) (congrArg Prod.fst second)
    cases same
    rw [ran]
    simp only [List.cons_append, List.nil_append, List.flatMap_cons, List.flatMap_nil, first, second]
    rfl
  · obtain ⟨results, ran, -⟩ := (carried_out_in_turn knowingOne {}
      ⟨[getKey "A-1", getKey "A-1"]⟩).1 (by simpa using known)
    refine ⟨results, ran.trans (congrArg (Prod.mk _) ?_)⟩
    simp only [List.flatMap_cons, List.flatMap_nil, first]
    rfl

end IssueQuery
