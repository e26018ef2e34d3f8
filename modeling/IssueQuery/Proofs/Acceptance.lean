import IssueQuery.Proofs.Tasks
import IssueQuery.Proofs.Outcome

namespace IssueQuery

/-! Accepted statements.

Each operation makes its own checks.  What passes them, and the task that comes of it,
is said here once for all operations.
-/

namespace Statement

/-- The tasks of the statements that operations accept, where the fields to show have
been chosen. -/
inductive Accepts (scope : Scope) (statement : Statement) (selection : Selection) :
    Operation → Task → Prop
  | get {text key : String} (unnamed : statement.named = [])
      (only : statement.positional = [text]) (present : Text.nonblank? text = some key) :
      Accepts scope statement selection .get (.get key selection)
  | list {criteria : Criteria} {order : Option Order} {window : Window}
      (known : ∀ argument ∈ statement.named, isListArgument argument.1)
      (resolved : Criteria.ofStatement scope statement = .ok criteria)
      (ordered : Order.ofArguments statement.named = .ok order)
      (shown : Window.ofStatement statement = .ok window) :
      Accepts scope statement selection .list (.list criteria order window selection)
  | count {criteria : Criteria} {order : Option Order} {window : Window}
      (known : ∀ argument ∈ statement.named, isListArgument argument.1)
      (ordered : Order.ofArguments statement.named = .ok order)
      (shown : Window.ofStatement statement = .ok window)
      (resolved : Criteria.ofStatement scope statement = .ok criteria) :
      Accepts scope statement selection .count (.count criteria)
  | summary {board : Option UInt64}
      (known : ∀ argument ∈ statement.named, argument.1 = "project" ∨ argument.1 = "board")
      (atMostOne : statement.positional.length ≤ 1)
      (chosen : statement.boardIn? scope = .ok board)
      (placed : ¬ (statement.projectIn? scope = none ∧ board = none)) :
      Accepts scope statement selection .summary (.summary (statement.projectIn? scope) board)
  | search {text : String} (known : ∀ argument ∈ statement.named, argument.1 = "jql")
      (atMostOne : statement.positional.length ≤ 1)
      (given : (statement.value? "jql").or statement.positional.head? = some text)
      (present : Text.nonblank? text ≠ none) :
      Accepts scope statement selection .search (.search text selection)
  | schema (unnamed : statement.named = []) : Accepts scope statement selection .schema .schema

variable {scope : Scope} {statement : Statement} {selection : Selection} {task : Task}

theorem checkNames_eq_ok_iff {allowed : String → Bool} {passed : Unit} :
    statement.checkNames allowed = .ok passed ↔
      ∀ argument ∈ statement.named, allowed argument.1 = true := by
  unfold checkNames
  split
  · rename_i name value found
    have refused : ¬ allowed name = true := by simpa using List.find?_some found
    have member := List.mem_of_find?_eq_some found
    exact ⟨nofun, fun known => absurd (known _ member) refused⟩
  · rename_i absent
    simpa using absent

theorem checkPositional_eq_ok_iff {passed : Unit} :
    statement.checkPositional = .ok passed ↔ statement.positional.length ≤ 1 := by
  unfold checkPositional
  split <;> simp <;> omega

theorem checkNames_false_eq_ok_iff {passed : Unit} :
    statement.checkNames (fun _ => false) = .ok passed ↔ statement.named = [] := by
  simp [checkNames_eq_ok_iff, List.eq_nil_iff_forall_not_mem]

theorem getTask_eq_ok_iff :
    statement.getTask selection = .ok task ↔ Accepts scope statement selection .get task := by
  simp only [getTask, bind_eq_ok_iff, checkNames_false_eq_ok_iff, exists_const]
  constructor
  · rintro ⟨unnamed, made⟩
    split at made
    · cases made
    · rename_i first others split
      split at made
      · cases made
      · rename_i key present
        cases others with
        | nil =>
            cases made
            exact .get unnamed split present
        | cons second more => cases made
  · intro accepted
    cases accepted with
    | get unnamed only present =>
        refine ⟨unnamed, ?_⟩
        simp [only, present]
        rfl

theorem listTask_eq_ok_iff :
    statement.listTask scope selection = .ok task ↔
      Accepts scope statement selection .list task := by
  simp only [listTask, bind_eq_ok_iff, checkNames_eq_ok_iff, exists_const]
  constructor
  · rintro ⟨known, criteria, resolved, order, ordered, window, shown, made⟩
    cases made
    exact .list known resolved ordered shown
  · intro accepted
    cases accepted with
    | list known resolved ordered shown =>
        exact ⟨known, _, resolved, _, ordered, _, shown, rfl⟩

theorem countTask_eq_ok_iff :
    statement.countTask scope = .ok task ↔ Accepts scope statement selection .count task := by
  simp only [countTask, bind_eq_ok_iff, checkNames_eq_ok_iff, exists_const]
  constructor
  · rintro ⟨known, order, ordered, window, shown, criteria, resolved, made⟩
    cases made
    exact .count known ordered shown resolved
  · intro accepted
    cases accepted with
    | count known ordered shown resolved =>
        exact ⟨known, _, ordered, _, shown, _, resolved, rfl⟩

theorem summaryTask_eq_ok_iff :
    statement.summaryTask scope = .ok task ↔
      Accepts scope statement selection .summary task := by
  simp only [summaryTask, bind_eq_ok_iff, checkNames_eq_ok_iff, checkPositional_eq_ok_iff,
    exists_const]
  constructor
  · rintro ⟨known, atMostOne, board, chosen, made⟩
    split at made
    · cases made
    · rename_i placed
      cases made
      refine .summary (by simpa using known) atMostOne chosen ?_
      simpa using placed
  · intro accepted
    cases accepted with
    | summary known atMostOne chosen placed =>
        refine ⟨by simpa using known, atMostOne, _, chosen, if_neg ?_⟩
        simpa using placed

theorem searchTask_eq_ok_iff :
    statement.searchTask selection = .ok task ↔
      Accepts scope statement selection .search task := by
  simp only [searchTask, bind_eq_ok_iff, checkNames_eq_ok_iff, checkPositional_eq_ok_iff,
    exists_const]
  constructor
  · rintro ⟨known, atMostOne, made⟩
    split at made
    · cases made
    · rename_i text given
      split at made
      · cases made
      · rename_i present
        cases made
        exact .search (by simpa using known) atMostOne given (by simpa using present)
  · intro accepted
    cases accepted with
    | search known atMostOne given present =>
        refine ⟨by simpa using known, atMostOne, ?_⟩
        simp [given, present]
        rfl

theorem schemaTask_eq_ok_iff :
    statement.schemaTask = .ok task ↔ Accepts scope statement selection .schema task := by
  simp only [schemaTask, bind_eq_ok_iff, checkNames_false_eq_ok_iff, exists_const]
  constructor
  · rintro ⟨unnamed, made⟩
    cases made
    exact .schema unnamed
  · intro accepted
    cases accepted with
    | schema unnamed => exact ⟨unnamed, rfl⟩

theorem taskOf_eq_ok_iff {operation : Operation} :
    statement.taskOf operation scope = .ok task ↔
      ∃ selection, Selection.ofNames (statement.fields.getD []) = .ok selection ∧
        Accepts scope statement selection operation task := by
  unfold taskOf
  cases Selection.ofNames (statement.fields.getD []) with
  | error name => simp [bind, Except.bind, throw, throwThe, MonadExceptOf.throw]
  | ok selection =>
      simp only [pure_bind, Except.ok.injEq, exists_eq_left']
      cases operation with
      | get => exact getTask_eq_ok_iff
      | list => exact listTask_eq_ok_iff
      | count => exact countTask_eq_ok_iff
      | summary => exact summaryTask_eq_ok_iff
      | search => exact searchTask_eq_ok_iff
      | schema => exact schemaTask_eq_ok_iff

/-- Which statements have a task. -/
theorem task_eq_ok_iff :
    statement.task scope = .ok task ↔
      ∃ operation selection, Operation.ofName? statement.operation = some operation ∧
        Selection.ofNames (statement.fields.getD []) = .ok selection ∧
        Accepts scope statement selection operation task := by
  unfold Statement.task
  cases Operation.ofName? statement.operation with
  | none => simp
  | some operation =>
      simp only [Option.some.injEq, exists_and_left, exists_eq_left', ← taskOf_eq_ok_iff]
      cases statement.taskOf operation scope <;> simp

end Statement

end IssueQuery
