import IssueQuery.Proofs.Repetition
import IssueQuery.Proofs.Tasks
import Mathlib.Data.List.Basic

namespace IssueQuery

/-! Services that say no more than they are asked.

Queries ask for fields in one place and read them in others.  Here a service is
compared with one that resets every part of its issues that was not asked for:
no query can tell them apart.
-/

/-- An issue as told by a service that was asked for fields.  Related issues are
told whole. -/
def Issue.narrow (names : List String) (issue : Issue) : Issue where
  id := issue.id
  key := issue.key
  details := {
    summary := if "summary" ∈ names then issue.details.summary else none
    description := if "description" ∈ names then issue.details.description else none
    type := if "issuetype" ∈ names then issue.details.type else none
    project := if "project" ∈ names then issue.details.project else none
    status := if "status" ∈ names then issue.details.status else none
    priority := if "priority" ∈ names then issue.details.priority else none
    assignee := if "assignee" ∈ names then issue.details.assignee else none
    reporter := if "reporter" ∈ names then issue.details.reporter else none
    labels := if "labels" ∈ names then issue.details.labels else []
    parent := if "parent" ∈ names then issue.details.parent else none
    subtasks := if "subtasks" ∈ names then issue.details.subtasks else []
    created := if "created" ∈ names then issue.details.created else none
    updated := if "updated" ∈ names then issue.details.updated else none }

/-- An answer whose issues are told as far as the call asks for. -/
def Call.narrow : (call : Call) → call.Answer → call.Answer
  | .issue _ names, found => found.narrow names
  | .issues _ names, found => found.map (·.narrow names)
  | .search _ names, found => found.map (·.narrow names)
  | .project _, found => found
  | .board _, found => found

section Answering

variable {m : Type → Type} [Monad m]

/-- The same answers, with narrowed issues. -/
def narrowed (answer : (call : Call) → m (Except ServiceError call.Answer)) (call : Call) :
    m (Except ServiceError call.Answer) :=
  (fun outcome => outcome.map call.narrow) <$> answer call

/-- The same answers, with a record of the calls. -/
def recorded (answer : (call : Call) → m (Except ServiceError call.Answer)) (call : Call) :
    StateT (List Call) m (Except ServiceError call.Answer) := do
  modify (· ++ [call])
  answer call

end Answering

/-- Whether names hold all that the service must be asked for to know fields. -/
def Covers (names : List String) (fields : List Field) : Prop :=
  ∀ field ∈ fields, ∀ name ∈ field.serviceName?, name ∈ names

theorem covers_serviceNames {asked fields : List Field}
    (included : ∀ field ∈ fields, field ∈ asked) : Covers (Field.serviceNames asked) fields :=
  fun field member _ named => Field.mem_serviceNames.mpr ⟨field, included field member, named⟩

theorem Selection.covers_serviceFields (selection : Selection) :
    Covers selection.serviceFields selection.fields :=
  covers_serviceNames fun _ member => member

theorem Covers.mono {names : List String} {fields others : List Field}
    (covers : Covers names fields) (included : ∀ field ∈ others, field ∈ fields) :
    Covers names others :=
  fun field member => covers field (included field member)

section Reading

variable {names : List String} {issue : Issue}

/-- A field that was asked for reads the same. -/
theorem Field.value?_narrow {field : Field} (asked : ∀ name ∈ field.serviceName?, name ∈ names) :
    field.value? (issue.narrow names) = field.value? issue := by
  cases field with
  | key => rfl
  | _ =>
      have member := asked _ rfl
      simp_all [Field.name, value?, Issue.narrow, Issue.statusName, Issue.assigneeName,
        Issue.typeName, Issue.priorityName, Issue.parentKey, Issue.descriptionText,
        Issue.reporterName, Issue.projectKey]

theorem Field.sortKey_narrow {field : Field} (asked : ∀ name ∈ field.serviceName?, name ∈ names) :
    field.sortKey (issue.narrow names) = field.sortKey issue := by
  rw [sortKey, value?_narrow asked, sortKey]

theorem Selection.project_narrow {selection : Selection}
    (covers : Covers names selection.fields) :
    selection.project (issue.narrow names) = selection.project issue := by
  have shown : ∀ field ∈ selection.fields,
      ((field.value? (issue.narrow names)).map fun value => (field.name, value)) =
        (field.value? issue).map fun value => (field.name, value) := by
    intro field member
    rw [Field.value?_narrow (covers field member)]
  rw [project, List.filterMap_congr shown, project]

theorem Criteria.admits_narrow {criteria : Criteria} (covers : Covers names criteria.fields) :
    criteria.admits (issue.narrow names) = criteria.admits issue := by
  obtain ⟨filter, assignee, priority⟩ := criteria
  have assigneeSame : Store.matchesName (issue.narrow names).assigneeName assignee =
      Store.matchesName issue.assigneeName assignee := by
    cases assignee with
    | none => rfl
    | some wanted =>
        have asked : "assignee" ∈ names := covers .assignee (by simp [fields]) _ rfl
        simp [Issue.assigneeName, Issue.narrow, asked]
  have prioritySame : Store.matchesName (issue.narrow names).priorityName priority =
      Store.matchesName issue.priorityName priority := by
    cases priority with
    | none => rfl
    | some wanted =>
        have asked : "priority" ∈ names := covers .priority (by simp [fields]) _ rfl
        simp [Issue.priorityName, Issue.narrow, asked]
  rw [admits, assigneeSame, prioritySame, admits]

/-- The names that a summary counts were asked for. -/
theorem Handler.tallied_narrow (covers : Covers names Handler.tallied) (issue : Issue) :
    (issue.narrow names).statusName = issue.statusName ∧
      (issue.narrow names).typeName = issue.typeName := by
  have status : "status" ∈ names := covers .status (by simp [Handler.tallied]) _ rfl
  have type : "issuetype" ∈ names := covers .type (by simp [Handler.tallied]) _ rfl
  simp [Issue.statusName, Issue.typeName, Issue.narrow, status, type]

end Reading

section Lists

variable {names : List String} {issues : List Issue}

theorem Order.sort_map {order : Order} {transform : Issue → Issue}
    (same : ∀ issue, order.field.sortKey (transform issue) = order.field.sortKey issue) :
    order.sort (issues.map transform) = (order.sort issues).map transform := by
  have keyed : (issues.map transform).map (fun issue => (order.field.sortKey issue, issue)) =
      (issues.map fun issue => (order.field.sortKey issue, issue)).map (Prod.map id transform) := by
    simp [Function.comp_def, same]
  rw [sort, keyed, ← List.map_mergeSort (r := fun first second =>
    inOrder order.direction first.1 second.1) fun _ _ _ _ => rfl, sort]
  simp [Function.comp_def]

theorem Window.apply_map {α β : Type} (window : Window) (transform : α → β) (items : List α) :
    window.apply (items.map transform) = (window.apply items).map transform := by
  obtain ⟨skip, take⟩ := window
  cases take with
  | none => exact List.map_drop.symm
  | some count => simp [apply]

theorem Criteria.filter_narrow {criteria : Criteria} (covers : Covers names criteria.fields)
    (issues : List Issue) :
    (issues.map (·.narrow names)).filter criteria.admits =
      (issues.filter criteria.admits).map (·.narrow names) := by
  have same : criteria.admits ∘ (·.narrow names) = criteria.admits := by
    funext issue
    exact admits_narrow covers
  rw [List.filter_map, same]

/-- A list shows the same issues whether or not they are narrowed. -/
theorem Handler.shownIssues_narrow {criteria : Criteria} {order : Option Order}
    (covers : Covers names (criteria.fields ++ (order.map (·.field)).toList)) (window : Window) :
    Handler.shownIssues criteria order window (issues.map (·.narrow names)) =
      (Handler.shownIssues criteria order window issues).map (·.narrow names) := by
  have filtered := Criteria.filter_narrow
    (covers.mono fun field member => List.mem_append_left _ member) issues
  cases order with
  | none => simp only [Handler.shownIssues, filtered, window.apply_map]
  | some order =>
      have sorted : ∀ issue : Issue,
          order.field.sortKey (issue.narrow names) = order.field.sortKey issue :=
        fun issue => Field.sortKey_narrow (covers order.field (by simp))
      simp only [Handler.shownIssues, filtered, Order.sort_map sorted, window.apply_map]

theorem Handler.showIssues_narrow {selection : Selection}
    (covers : Covers names selection.fields) :
    Handler.showIssues selection (issues.map (·.narrow names)) =
      Handler.showIssues selection issues := by
  simp [Handler.showIssues, Function.comp_def, Selection.project_narrow covers]

end Lists

namespace Plan

variable {First Second Result : Type}

/-- Whether a plan goes on in the same way when an answer is narrowed. -/
def ReadsOnlyAsked : Plan Result → Prop
  | .done _ => True
  | .ask call next => ∀ found : call.Answer,
      next (call.narrow found) = next found ∧ (next found).ReadsOnlyAsked

theorem readsOnlyAsked_ask {call : Call} {result : call.Answer → Result}
    (same : ∀ found, result (call.narrow found) = result found) :
    (Plan.ask call fun found => .done (result found)).ReadsOnlyAsked :=
  fun found => ⟨congrArg Plan.done (same found), trivial⟩

theorem ReadsOnlyAsked.bind {plan : Plan First} (reads : plan.ReadsOnlyAsked)
    {next : First → Plan Second} (nextReads : ∀ result, (next result).ReadsOnlyAsked) :
    (plan.bind next).ReadsOnlyAsked := by
  induction plan with
  | done result => exact nextReads result
  | ask call following ih =>
      intro found
      obtain ⟨same, readsBehind⟩ := reads found
      exact ⟨congrArg (Plan.bind · next) same, ih found readsBehind⟩

/-- Such a plan runs in the same way against narrowed answers. -/
theorem ReadsOnlyAsked.run_narrowed {m : Type → Type} [Monad m] [LawfulMonad m]
    {plan : Plan Result} (reads : plan.ReadsOnlyAsked)
    (answer : (call : Call) → m (Except ServiceError call.Answer)) :
    plan.run (narrowed answer) = plan.run answer := by
  induction plan with
  | done result => rfl
  | ask call next ih =>
      rw [run, run, narrowed, bind_map_left]
      apply bind_congr
      intro outcome
      cases outcome with
      | error cause => rfl
      | ok found =>
          obtain ⟨same, readsBehind⟩ := reads found
          simp only [Except.map, same, ih found readsBehind]

end Plan

namespace Task

theorem listPlan_readsOnlyAsked (criteria : Criteria) (order : Option Order) (window : Window)
    (selection : Selection) :
    (listPlan criteria order window selection).ReadsOnlyAsked := by
  refine Plan.readsOnlyAsked_ask fun issues => ?_
  have asked : Covers (selection.serviceFieldsWith
      (criteria.fields ++ (order.map (·.field)).toList))
      (selection.fields ++ (criteria.fields ++ (order.map (·.field)).toList)) :=
    covers_serviceNames fun field member => Field.mem_distinct.mpr member
  have read := asked.mono fun field member => List.mem_append_right _ member
  have shown := asked.mono fun field member => List.mem_append_left _ member
  rw [Call.narrow, Handler.shownIssues_narrow read, Handler.showIssues_narrow shown]

theorem countPlan_readsOnlyAsked (criteria : Criteria) :
    (countPlan criteria).ReadsOnlyAsked := by
  refine Plan.readsOnlyAsked_ask fun issues => ?_
  have asked : Covers (Field.serviceNames (Handler.tallied ++ criteria.fields)) criteria.fields :=
    covers_serviceNames fun field member => List.mem_append_right _ member
  rw [Call.narrow, Criteria.filter_narrow asked, List.length_map]

theorem projectPlan_readsOnlyAsked (project : Option String) :
    (projectPlan project).ReadsOnlyAsked := by
  cases project with
  | none => trivial
  | some key =>
      refine fun project => ⟨rfl, Plan.readsOnlyAsked_ask fun issues => ?_⟩
      have asked : Covers (Field.serviceNames Handler.tallied) Handler.tallied :=
        covers_serviceNames fun field member => member
      have same := Handler.tallied_narrow asked
      simp only [Call.narrow, Handler.projectEntries, List.filterMap_map, List.length_map,
        Function.comp_def, same]

theorem boardPlan_readsOnlyAsked (board : Option UInt64) : (boardPlan board).ReadsOnlyAsked := by
  cases board with
  | none => trivial
  | some id => exact Plan.readsOnlyAsked_ask fun board => rfl

/-- No task reads more of an issue than it asked for. -/
theorem plan_readsOnlyAsked (task : Task) : task.plan.ReadsOnlyAsked := by
  cases task with
  | get key selection =>
      refine Plan.readsOnlyAsked_ask fun issue => ?_
      rw [Call.narrow, Selection.project_narrow selection.covers_serviceFields]
  | list criteria order window selection =>
      exact listPlan_readsOnlyAsked criteria order window selection
  | count criteria => exact countPlan_readsOnlyAsked criteria
  | summary project board =>
      refine (projectPlan_readsOnlyAsked project).bind fun ofProject => ?_
      exact (boardPlan_readsOnlyAsked board).bind fun ofBoard => trivial
  | search text selection =>
      refine Plan.readsOnlyAsked_ask fun issues => ?_
      rw [Call.narrow, Handler.showIssues_narrow selection.covers_serviceFields]
  | schema => trivial

end Task

section Execution

variable {m : Type → Type} [Monad m] [LawfulMonad m]
  (answer : (call : Call) → m (Except ServiceError call.Answer)) (scope : Scope)

theorem Statement.execute_narrowed (statement : Statement) :
    statement.execute (narrowed answer) scope = statement.execute answer scope := by
  cases judged : statement.task scope with
  | error error => rw [execute_refused judged, execute_refused judged]
  | ok task =>
      rw [execute_accepted judged, execute_accepted judged,
        task.plan_readsOnlyAsked.run_narrowed]

theorem executeStatements_narrowed (index : Nat) (statements : List Statement) :
    executeStatements (narrowed answer) scope index statements =
      executeStatements answer scope index statements := by
  induction statements generalizing index with
  | nil => rfl
  | cons statement rest ih =>
      rw [executeStatements, executeStatements, statement.execute_narrowed, ih]

theorem recorded_narrowed : recorded (narrowed answer) = narrowed (recorded answer) := by
  funext call
  simp [recorded, narrowed]

/-- Queries have the same results, and make the same calls in the same order,
when they are told no more than they ask for. -/
theorem Query.execute_reads_only_asked (query : Query) :
    query.execute (narrowed answer) scope = query.execute answer scope ∧
      query.execute (recorded (narrowed answer)) scope =
        query.execute (recorded answer) scope := by
  refine ⟨executeStatements_narrowed answer scope 0 query.statements, ?_⟩
  -- A recorded service is a service, and it makes no difference where it narrows.
  rw [recorded_narrowed]
  exact executeStatements_narrowed (recorded answer) scope 0 query.statements

end Execution

/-- A service that knows one issue, with more of it than its summary. -/
def talkative (call : Call) : Id (Except ServiceError call.Answer) :=
  Store.service { issues := [{
    key := "A-1"
    details := { summary := some "Login", status := some { name := "Open" } } }] } call

theorem talkative_narrowed :
    ((narrowed talkative (.issue "A-1" ["summary"])).map Issue.statusName = .ok none ∧
      (talkative (.issue "A-1" ["summary"])).map Issue.statusName = .ok (some "Open")) ∧
    Query.execute (narrowed talkative) {} ⟨[⟨"get", [⟨none, "A-1"⟩], some ["summary"]⟩]⟩ =
        Query.execute talkative {} ⟨[⟨"get", [⟨none, "A-1"⟩], some ["summary"]⟩]⟩ ∧
      Query.execute (recorded (narrowed talkative)) {}
          ⟨[⟨"get", [⟨none, "A-1"⟩], some ["summary"]⟩]⟩ =
        Query.execute (recorded talkative) {} ⟨[⟨"get", [⟨none, "A-1"⟩], some ["summary"]⟩]⟩ :=
  ⟨⟨rfl, rfl⟩, Query.execute_reads_only_asked talkative {} _⟩

end IssueQuery
