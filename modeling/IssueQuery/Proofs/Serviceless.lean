import IssueQuery.Command.Run
import IssueQuery.Proofs.Acceptance
import IssueQuery.Proofs.Grammar
import IssueQuery.Proofs.Refusals

namespace IssueQuery

/-! Queries that need no service.

What comes of such a query depends on nothing but its text: neither on what a service
would answer nor on settings, environment or the rest of the command line.  Every other
query does ask a service, and fails where there is none.
-/

namespace Statement

variable {scope : Scope} {statement : Statement}

theorem remote_eq_false_iff {name : String} :
    ((Operation.ofName? name).map Operation.isRemote).getD true = false ↔ name = "schema" := by
  constructor
  · intro notRemote
    cases found : Operation.ofName? name with
    | none => simp [found] at notRemote
    | some operation =>
        have named := Operation.name_of_ofName? found
        cases operation with
        | schema => exact named.symm
        | _ => simp [found, Operation.isRemote] at notRemote
  · rintro rfl
    rfl

section Execution

variable {m : Type → Type} [Monad m] [LawfulMonad m]
  {answer : (call : Call) → m (Except ServiceError call.Answer)}

theorem execute_schema (called : statement.operation = "schema") :
    statement.execute answer scope =
      pure ((statement.task {}).map fun _ => .ofJson Manual.current.toJson.sorted) := by
  -- Only other operations look at the scope.
  have same : statement.task scope = statement.task {} := by
    rw [task, task, called]
    rfl
  cases judged : statement.task {} with
  | error error =>
      rw [execute_refused (same.trans judged)]
      rfl
  | ok accepted =>
      obtain ⟨operation, selection, known, -, accepts⟩ := task_eq_ok_iff.mp judged
      have isSchema : operation = .schema := by
        rw [called] at known
        exact (Option.some.inj known).symm
      subst isSchema
      cases accepts with
      | schema =>
          rw [execute_accepted (same.trans judged)]
          simp [Task.plan, Plan.run, Except.mapError, Except.map]

end Execution

theorem Accepts.asks {selection : Selection} {operation : Operation} {task : Task}
    (accepts : Accepts scope statement selection operation task) (remote : operation ≠ .schema) :
    ∃ call next, task.plan = .ask call next := by
  cases accepts with
  | summary known atMostOne chosen placed =>
      rename_i board
      cases project : statement.projectIn? scope with
      | some key => exact ⟨_, _, rfl⟩
      | none =>
          cases board with
          | some id => exact ⟨_, _, rfl⟩
          | none => exact absurd ⟨project, rfl⟩ placed
  | schema => exact absurd rfl remote
  | _ => exact ⟨_, _, rfl⟩

theorem execute_offline (remote : statement.operation ≠ "schema") (value : Value) :
    statement.execute (m := Id) Service.offline scope ≠ .ok value := by
  intro returned
  cases judged : statement.task scope with
  | error error =>
      rw [execute_refused judged] at returned
      cases returned
  | ok task =>
      obtain ⟨operation, selection, called, -, accepts⟩ := task_eq_ok_iff.mp judged
      have notSchema : operation ≠ .schema := by
        rintro rfl
        exact remote (Operation.name_of_ofName? called).symm
      obtain ⟨call, next, planned⟩ := accepts.asks notSchema
      have failed : task.plan.run (m := Id) Service.offline =
          .error (.configuration "no instance is available for this query") := by
        rw [planned, Plan.run]
        rfl
      rw [execute_accepted judged, failed] at returned
      cases returned

end Statement

theorem Query.needsService_eq_false_iff {query : Query} :
    query.needsService = false ↔
      ∀ statement ∈ query.statements, statement.operation = "schema" := by
  simp only [Query.needsService, List.any_eq_false, Bool.not_eq_true, Statement.remote_eq_false_iff]

theorem executeStatements_schema {statements : List Statement}
    (called : ∀ statement ∈ statements, statement.operation = "schema") (index : Nat) :
    ∃ outcome, ∀ (m : Type → Type) [Monad m] [LawfulMonad m]
      (answer : (call : Call) → m (Except ServiceError call.Answer)) (scope : Scope),
      executeStatements answer scope index statements = pure outcome := by
  -- The outcome is named before the monad, the service and the scope are.
  induction statements generalizing index with
  | nil => exact ⟨.ok [], fun m _ _ answer scope => rfl⟩
  | cons statement rest ih =>
      have alone := called statement List.mem_cons_self
      obtain ⟨outcome, ran⟩ := ih (fun other member => called other (List.mem_cons_of_mem _ member))
        (index + 1)
      cases judged : statement.task {} with
      | error cause =>
          refine ⟨.error (.statement statement.operation index cause), fun m _ _ answer scope => ?_⟩
          rw [executeStatements, Statement.execute_schema alone, judged, pure_bind]
          rfl
      | ok task =>
          refine ⟨outcome.map (.ofJson Manual.current.toJson.sorted :: ·),
            fun m _ _ answer scope => ?_⟩
          rw [executeStatements, Statement.execute_schema alone, judged, pure_bind]
          simp only [Except.map, ran, pure_bind]
          cases outcome <;> rfl

theorem executeStatements_offline {scope : Scope} {statements : List Statement} {index : Nat}
    {values : List Value}
    (returned : executeStatements (m := Id) Service.offline scope index statements = .ok values) :
    ∀ statement ∈ statements, statement.operation = "schema" := by
  induction statements generalizing index values with
  | nil => exact nofun
  | cons statement rest ih =>
      cases outcome : statement.execute (m := Id) Service.offline scope with
      | error cause => simp [executeStatements, outcome] at returned
      | ok value =>
          have alone : statement.operation = "schema" := by
            by_contra remote
            exact Statement.execute_offline remote value outcome
          cases others : executeStatements (m := Id) Service.offline scope (index + 1) rest with
          | error error => simp [executeStatements, outcome, others] at returned
          | ok more => exact List.forall_mem_cons.mpr ⟨alone, ih others⟩

/-- Writes the result of a query and ends.  The time shows in nothing but the envelope
of a failure. -/
def Console.conclude {n : Type → Type} [Monad n] (console : Console n) (jsonErrors : Bool)
    (timestamp : String) : Except QueryError (List Value) → n ExitStatus
  | .ok values => do
      console.print (renderResults values)
      return .success
  | .error error => do
      console.report
        (if jsonErrors then ((Failure.query error).report.envelope "q" timestamp).pretty ++ "\n"
          else "Error: " ++ (Failure.query error).message ++ "\n")
      return (Failure.query error).status

/-- Whether a query text, as a command, leaves the same behind on every machine, in every
environment and with all other arguments.  The console is all that is used for it. -/
def CommandLine.AlikeEverywhere (text : String) : Prop :=
  ∃ result, ∀ (m n : Type → Type) [Monad m] [Monad n] [LawfulMonad n] [MonadLiftT m n]
    (host : Host m) (console : Console n) (environment : Environment) (line : CommandLine),
    line.command = .query text →
      line.perform host console environment =
        .lift (console.conclude line.jsonErrors environment.timestamp result)

theorem CommandLine.alikeEverywhere_of_serviceless {text : String}
    (serviceless : ∀ query, Query.parse text = .ok query → query.needsService = false) :
    AlikeEverywhere text := by
  cases parsed : Query.parse text with
  | error fault =>
      refine ⟨.error (.ofSyntax fault), fun m n _ _ _ _ host console environment line given => ?_⟩
      change _ = liftM (console.conclude line.jsonErrors environment.timestamp _)
      simp [perform, carryOut, given, runQuery, parsed, diagnosis, Command.name, Console.conclude]
  | ok query =>
      refine ⟨(query.execute (m := Id) Service.offline {}).run,
        fun m n _ _ _ _ host console environment line given => ?_⟩
      change _ = liftM (console.conclude line.jsonErrors environment.timestamp _)
      have unneeded := serviceless query parsed
      cases outcome : (query.execute (m := Id) Service.offline {}).run with
      | error error =>
          simp [perform, carryOut, given, runQuery, parsed, unneeded, outcome, diagnosis,
            Command.name, Console.conclude]
      | ok values =>
          simp [perform, carryOut, given, runQuery, parsed, unneeded, outcome, Console.conclude]

/-- Which queries need a service, and what comes of them without one.  Those that need none
have one outcome with every service and in every scope, and ask no service; the others have no
result where there is none. -/
structure Query.ShowsNeed (query : Query) : Prop where
  schemaOnly : query.needsService = false ↔
    ∀ statement ∈ query.statements, statement.operation = "schema"
  alike : query.needsService = false →
    ∃ outcome, ∀ (m : Type → Type) [Monad m] [LawfulMonad m]
      (answer : (call : Call) → m (Except ServiceError call.Answer)) (scope : Scope),
      query.execute answer scope = pure outcome
  resultless : query.needsService = true → ∀ scope values,
    query.execute (m := Id) Service.offline scope ≠ .ok values

/-- The queries that need no service are those that call nothing but `schema`, and what comes of
them does not depend on one.  As a command, a query that needs no service or is none uses neither
the disk nor the network and is the same everywhere. -/
theorem Query.serviceless_alike (query : Query) :
    query.ShowsNeed ∧
    ∀ text, (∀ parsed, Query.parse text = .ok parsed → parsed.needsService = false) →
      CommandLine.AlikeEverywhere text := by
  refine ⟨⟨needsService_eq_false_iff, fun serviceless => ?_,
    fun needed scope values returned => ?_⟩,
    fun text => CommandLine.alikeEverywhere_of_serviceless⟩
  · exact executeStatements_schema (needsService_eq_false_iff.mp serviceless) 0
  · have serviceless := needsService_eq_false_iff.mpr (executeStatements_offline returned)
    rw [needed] at serviceless
    cases serviceless

def schemaTwice : Query := ⟨[⟨"schema", [], none⟩, ⟨"schema", [⟨some "x", "1"⟩], none⟩]⟩

def schemaAndGet : Query := ⟨[⟨"schema", [], none⟩, ⟨"get", [⟨none, "A-1"⟩], none⟩]⟩

/-- A query that describes the language twice, the second time wrongly, and one that
fetches an issue as well. -/
theorem schemas_alike :
    (∃ outcome, ∀ (m : Type → Type) [Monad m] [LawfulMonad m]
      (answer : (call : Call) → m (Except ServiceError call.Answer)) (scope : Scope),
      schemaTwice.execute answer scope = pure outcome) ∧
    (∀ scope values, schemaAndGet.execute (m := Id) Service.offline scope ≠ .ok values) ∧
    CommandLine.AlikeEverywhere "schema(); schema(x=1)" := by
  have read : Query.parse "schema(); schema(x=1)" = .ok schemaTwice := by decide +kernel
  obtain ⟨twice, everywhere⟩ := Query.serviceless_alike schemaTwice
  refine ⟨twice.alike rfl, (Query.serviceless_alike schemaAndGet).1.resultless rfl,
    everywhere _ fun parsed found => ?_⟩
  rw [found] at read
  cases read
  rfl

end IssueQuery
