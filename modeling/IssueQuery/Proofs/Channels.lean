import IssueQuery.Command.Machine
import IssueQuery.Proofs.Halts
import IssueQuery.Proofs.Serviceless

namespace IssueQuery

/-! What a command writes, and how it ends.

A command either prints everything that is asked of it, in one piece, or prints nothing
and tells why; and what it tells as JSON agrees with how the process ends.
-/

namespace Failure

/-- Whether the code that is told of a failure stands for how the process ends. -/
def Consistent (failure : Failure) : Prop :=
  ErrorCode.exitStatusOfText failure.report.code = failure.status

theorem consistent_query (error : QueryError) : (Failure.query error).Consistent := by
  simp only [Consistent, report, Report.ofQueryError, status]
  cases error.code <;> rfl

theorem number_ne_zero (failure : Failure) : failure.status.number ≠ 0 := by
  cases failure with
  | query error =>
      simp only [status]
      cases error.code <;> decide
  | service cause => cases cause <;> simp [status, ExitStatus.number]
  | _ => simp [status, ExitStatus.number]

end Failure

theorem Client.configuration_of_ofSettings {settings : ClientSettings} {error : ServiceError}
    (failed : Client.ofSettings settings = .error error) :
    ∃ detail, error = .configuration detail := by
  unfold Client.ofSettings at failed
  split at failed
  · cases failed
    exact ⟨_, rfl⟩
  · split at failed
    · cases failed
      exact ⟨_, rfl⟩
    · simp only [IssueQuery.authorization] at failed
      split at failed
      · cases failed
      · split at failed
        · cases failed
          exact ⟨_, rfl⟩
        · cases failed

section Runs

variable {State : Type}

theorem consistent_of_settingsFile {environment : Environment} {line : CommandLine}
    {failure : Failure} (failed : line.settingsFile environment = .error failure) :
    failure.Consistent := by
  unfold CommandLine.settingsFile at failed
  split at failed
  · cases failed
    rfl
  · cases failed

theorem consistent_of_connect {host : Host (StateM State)} {environment : Environment}
    {settings : Settings} {failure : Failure} {before after : State}
    (failed : Id.run ((CommandLine.connect host environment settings).run before) =
      (.error failure, after)) : failure.Consistent := by
  unfold CommandLine.connect at failed
  split at failed
  · cases failed
    rfl
  · split at failed
    · rename_i error refused
      -- Another error of a service, such as that of a missing resource, would be told with
      -- a code for another exit status.
      obtain ⟨detail, rfl⟩ := Client.configuration_of_ofSettings refused
      cases failed
      rfl
    · split at failed <;> simp at failed

/-- There is one result for each statement. -/
theorem map_length_executeStatements {m : Type → Type} [Monad m] [LawfulMonad m]
    (answer : (call : Call) → m call.Outcome) (scope : Scope) (index : Nat)
    (statements : List Statement) :
    Except.map List.length <$> executeStatements answer scope index statements =
      Except.map (fun _ => statements.length) <$>
        executeStatements answer scope index statements := by
  induction statements generalizing index with
  | nil => simp [executeStatements, Except.map]
  | cons statement rest ih =>
      simp only [executeStatements, map_bind]
      apply bind_congr
      intro outcome
      cases outcome with
      | error cause => simp [Except.map]
      | ok value =>
          -- Both sides are one more than what there is behind the first statement.
          refine Eq.trans ?_ ((congrArg (Except.map (· + 1) <$> ·) (ih (index + 1))).trans ?_)
          all_goals
            simp only [map_eq_pure_bind, bind_assoc]
            apply bind_congr
            rintro (error | values) <;> simp [Except.map]

theorem length_of_executeStatements
    {answer : (call : Call) → ExceptT Halt (StateM State) call.Outcome} {scope : Scope}
    {index : Nat} {statements : List Statement} {values : List Value} {before after : State}
    (ran : Id.run ((executeStatements answer scope index statements).run.run before) =
      (.ok (.ok values), after)) : values.length = statements.length := by
  have counted := congrArg (fun action => Id.run (action.run.run before))
    (map_length_executeStatements answer scope index statements)
  simpa [ran, Except.map] using counted

theorem length_of_serviceless {query : Query} {values : List Value}
    (ran : (query.execute (m := Id) Service.offline {}).run = .ok values) :
    values.length = query.statements.length := by
  have counted := map_length_executeStatements (m := Id) Service.offline {} 0 query.statements
  have same : executeStatements (m := Id) Service.offline {} 0 query.statements = .ok values := ran
  rw [same] at counted
  exact Except.ok.inj counted

/-- What a run that has written nothing so far comes to, and what it writes. -/
def observed {α : Type} (action : ExceptT Halt (StateT Written (StateM State)) α)
    (state : State) : (Except Halt α × Written) × State :=
  Id.run ((action.run.run {}).run state)

/-- The output that is complete for a command that starts in some state. -/
inductive CommandLine.Completes (host : Host (StateM State)) (environment : Environment)
    (line : CommandLine) (start : State) : String → Prop
  | remote {text path address : String} {query : Query} {settings : Settings} {client : Client}
      {values : List Value} {loaded connected after : State} (given : line.command = .query text)
      (read : Query.parse text = .ok query) (needed : query.needsService = true)
      (found : line.settingsFile environment = .ok path)
      (settled : Id.run ((Settings.load host.disk path).run start) = (.ok settings, loaded))
      (reached : Id.run ((CommandLine.connect host environment settings).run loaded) =
        (.ok (address, client), connected))
      (ran : Id.run ((query.execute (client.answer host.arithmetic host.transport host.pages)
        (line.scope.or settings.scope)).run.run connected) = (.ok (.ok values), after))
      (whole : values.length = query.statements.length) :
      Completes host environment line start (renderResults values)
  | serviceless {text : String} {query : Query} {values : List Value}
      (given : line.command = .query text) (read : Query.parse text = .ok query)
      (unneeded : query.needsService = false)
      (ran : (query.execute (m := Id) Service.offline {}).run = .ok values)
      (whole : values.length = query.statements.length) :
      Completes host environment line start (renderResults values)
  | manual {asJsonSchema : Bool} (given : line.command = .manual asJsonSchema) :
      Completes host environment line start
        ((if asJsonSchema then Manual.jsonSchema else Manual.current.toJson).pretty ++ "\n")
  | settings {change : Option Settings.Change} {path : String} {settings : Settings}
      {after : State} (given : line.command = .settings change)
      (found : line.settingsFile environment = .ok path)
      (settled : Id.run ((CommandLine.settle host path change).run start) =
        (.ok settings, after)) :
      Completes host environment line start
        ((CommandLine.settingsReport environment path settings).pretty ++ "\n")
  | version (given : line.command = .version) :
      Completes host environment line start ("jira-mgmt " ++ Manual.toolVersion ++ "\n")

/-- How a command may have been carried out, and what it may have written. -/
inductive CommandLine.Ends (host : Host (StateM State)) (environment : Environment)
    (line : CommandLine) (start : State) :
    Except Halt (Except Failure Unit) × Written → Prop
  | completed {output : String} (complete : line.Completes host environment start output) :
      Ends host environment line start (.ok (.ok ()), ⟨[output], []⟩)
  | failed {failure : Failure} {reported : List String} (consistent : failure.Consistent)
      (quiet : line.jsonErrors = true → reported = []) :
      Ends host environment line start (.ok (.error failure), ⟨[], reported⟩)
  | halted {halt : Halt} (checked : halt = .overflow → host.arithmetic = .checked) :
      Ends host environment line start (.error halt, ⟨[], []⟩)

namespace CommandLine

variable {host : Host (StateM State)} {environment : Environment} {line : CommandLine}
  {start state : State}

/-- Whether a run that has come to a state, and has written nothing so far, ends as a
command should. -/
def EndsWell (host : Host (StateM State)) (environment : Environment) (line : CommandLine)
    (start state : State)
    (action : ExceptT Halt (StateT Written (StateM State)) (Except Failure Unit)) : Prop :=
  line.Ends host environment start (observed action state).1

theorem endsWell_error {failure : Failure} (consistent : failure.Consistent) :
    EndsWell host environment line start state (pure (.error failure)) :=
  .failed consistent fun _ => rfl

theorem endsWell_print {output : String}
    (complete : line.Completes host environment start output) :
    EndsWell host environment line start state (do
      (Written.console.print output : StateT Written (StateM State) Unit)
      return .ok ()) :=
  .completed complete

theorem endsWell_halt {halt : Halt} (checked : halt = .overflow → host.arithmetic = .checked) :
    EndsWell host environment line start state (throw halt) :=
  .halted checked

theorem endsWell_explain {address : String} {error : QueryError} :
    EndsWell host environment line start state (do
      (line.explain Written.console address error : StateT Written (StateM State) Unit)
      return .error (.query error)) := by
  have consistent := Failure.consistent_query error
  unfold explain
  split
  · split
    · exact endsWell_error consistent
    · rename_i plain
      exact .failed consistent fun asJson => absurd asJson plain
  · exact endsWell_error consistent

theorem endsWell_bind {Result : Type} {action : StateM State Result}
    {next : Result → ExceptT Halt (StateT Written (StateM State)) (Except Failure Unit)}
    (goesOn : ∀ result after, Id.run (action.run state) = (result, after) →
      EndsWell host environment line start after (next result)) :
    EndsWell host environment line start state
      ((liftM action : ExceptT Halt (StateT Written (StateM State)) Result) >>= next) :=
  -- The lifted step cannot reach the console, so that nothing has been written behind it.
  goesOn _ _ rfl

theorem endsWell_runSettings {change : Option Settings.Change}
    (given : line.command = .settings change) :
    EndsWell host environment line start start
      (runSettings host Written.console environment line change) := by
  unfold runSettings
  cases found : line.settingsFile environment with
  | error failure => exact endsWell_error (consistent_of_settingsFile found)
  | ok path =>
      refine endsWell_bind fun result after settled => ?_
      cases result with
      | error error => exact endsWell_error rfl
      | ok settings => exact endsWell_print (.settings given found settled)

theorem endsWell_runRemote {text : String} {query : Query} (given : line.command = .query text)
    (read : Query.parse text = .ok query) (needed : query.needsService = true) :
    EndsWell host environment line start start
      (runRemote host Written.console environment line query) := by
  unfold runRemote
  cases found : line.settingsFile environment with
  | error failure => exact endsWell_error (consistent_of_settingsFile found)
  | ok path =>
      refine endsWell_bind fun result loaded settled => ?_
      cases result with
      | error error => exact endsWell_error rfl
      | ok settings =>
          refine endsWell_bind fun result connected reached => ?_
          cases result with
          | error failure => exact endsWell_error (consistent_of_connect reached)
          | ok place =>
              refine endsWell_bind fun outcome after ran => ?_
              rcases outcome with halt | error | values
              · exact endsWell_halt fun isOverflow =>
                  Client.checked_of_execute_overflow ⟨_, _, isOverflow ▸ ran⟩
              · exact endsWell_explain
              · exact endsWell_print (.remote given read needed found settled reached ran
                  (length_of_executeStatements ran))

theorem endsWell_runQuery {text : String} (given : line.command = .query text) :
    EndsWell host environment line start start
      (runQuery host Written.console environment line text) := by
  unfold runQuery
  cases read : Query.parse text with
  | error fault => exact endsWell_error (Failure.consistent_query _)
  | ok query =>
      by_cases needed : query.needsService = true
      · simp only [if_pos needed]
        exact endsWell_runRemote given read needed
      · simp only [if_neg needed]
        have unneeded : query.needsService = false := Bool.eq_false_iff.mpr needed
        cases offline : (query.execute (m := Id) Service.offline {}).run with
        | error error => exact endsWell_error (Failure.consistent_query _)
        | ok values =>
            exact endsWell_print (.serviceless given read unneeded offline
              (length_of_serviceless offline))

theorem endsWell_carryOut :
    EndsWell host environment line start start
      (carryOut host Written.console environment line) := by
  unfold carryOut
  split
  · rename_i text given
    exact endsWell_runQuery given
  · rename_i asJsonSchema given
    exact endsWell_print (.manual given)
  · rename_i change given
    exact endsWell_runSettings given
  · rename_i given
    exact endsWell_print (.version given)

theorem observed_perform (state : State) :
    (observed (line.perform host Written.console environment) state).1 =
      match (observed (carryOut host Written.console environment line) state).1 with
      | (.ok (.ok ()), written) => (.ok .success, written)
      | (.ok (.error failure), written) =>
          (.ok failure.status,
            { written with reported := written.reported ++ [line.diagnosis environment failure] })
      | (.error halt, written) => (.error halt, written) := by
  cases ran : observed (carryOut host Written.console environment line) state with
  | mk ended after =>
      obtain ⟨outcome, written⟩ := ended
      simp only [observed] at ran
      rcases outcome with halt | failure | _
      · simp [observed, perform, ran]
      · simp only [observed, perform, ExceptT.run_bind, StateT.run_bind, Id.run_bind, ran]
        rfl
      · simp [observed, perform, ran]

/-- Settings cannot be shown where nothing says in which file they are. -/
example (host : Host (StateM State)) (state : State) :
    let line : CommandLine := { command := .settings none, jsonErrors := true }
    (observed (line.perform host Written.console { timestamp := "" }) state).1 =
      (.ok .general, ⟨[], [line.diagnosis { timestamp := "" } .homeless]⟩) := rfl

end CommandLine

end Runs

end IssueQuery
