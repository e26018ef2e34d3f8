import IssueQuery.Proofs.Batch
import IssueQuery.Proofs.Counting
import IssueQuery.Proofs.Rules

namespace IssueQuery

/-! Arguments in another order.

Arguments by place count in the order in which they stand, and of arguments with one name the
last one counts.  What one name, or none, is given does not depend on where the arguments of
other names stand, and neither does the task of a statement.
-/

/-- The same arguments, where those of one name and those without a name keep their order. -/
def Rearranged (first second : List Argument) : Prop :=
  ∀ name, first.filter (·.name = name) = second.filter (·.name = name)

namespace Rearranged

variable {first second : List Argument}

theorem symm (rearranged : Rearranged first second) : Rearranged second first :=
  fun name => (rearranged name).symm

/-- Only the names that occur have to be looked at. -/
theorem iff_of_mem : Rearranged first second ↔ ∀ argument ∈ first ++ second,
    first.filter (·.name = argument.name) = second.filter (·.name = argument.name) := by
  refine ⟨fun rearranged argument _ => rearranged argument.name, fun same name => ?_⟩
  by_cases occurs : ∃ argument ∈ first ++ second, argument.name = name
  · obtain ⟨argument, member, rfl⟩ := occurs
    exact same argument member
  · have absent (argument : Argument) (member : argument ∈ first ++ second) :
        ¬ argument.name = name := fun given => occurs ⟨argument, member, given⟩
    rw [List.filter_eq_nil_iff.mpr fun argument member => by
        simpa using absent argument (List.mem_append_left _ member),
      List.filter_eq_nil_iff.mpr fun argument member => by
        simpa using absent argument (List.mem_append_right _ member)]

instance : Decidable (Rearranged first second) := decidable_of_iff _ iff_of_mem.symm

theorem perm (rearranged : Rearranged first second) : first.Perm second := by
  rw [List.perm_iff_count]
  intro argument
  have same := congrArg (List.count argument) (rearranged argument.name)
  rwa [List.count_filter (by simp), List.count_filter (by simp)] at same

end Rearranged

namespace Order

/-- Arguments that ask for an order of which there is at most one are that one argument. -/
theorem length_le_one_of_rules {arguments : List (String × String)} (rules : Rules arguments)
    (areOrders : ∀ argument ∈ arguments, IsOrderName argument.1) : arguments.length ≤ 1 := by
  match arguments, rules.atMostOne with
  | [], _ => simp
  | [_], _ => simp
  | first :: second :: _, atMostOne =>
      have apart := (List.pairwise_cons.mp atMostOne).1 second List.mem_cons_self
      exact absurd ⟨areOrders first List.mem_cons_self,
        areOrders second (List.mem_cons_of_mem _ List.mem_cons_self)⟩ apart

theorem ofArguments_of_perm {first second : List (String × String)} {order : Option Order}
    (perm : first.Perm second) (read : ofArguments first = .ok order) :
    ofArguments second = .ok order := by
  let isOrder (argument : String × String) : Bool := (fieldName? argument.1).isSome
  have alone (arguments : List (String × String)) :
      ofArguments (arguments.filter isOrder) = ofArguments arguments :=
    ofArguments_filter (fun _ => id) arguments
  have single : (first.filter isOrder).length ≤ 1 := by
    refine length_le_one_of_rules (exists_ofArguments_iff.mp ⟨order, (alone first).trans read⟩) ?_
    exact fun argument member => isOrderName_iff.mpr (List.mem_filter.mp member).2
  -- A list of at most one argument is its only rearrangement.
  have same : second.filter isOrder = first.filter isOrder := by
    match split : first.filter isOrder, single with
    | [], _ => exact List.perm_nil.mp (split ▸ perm.symm.filter isOrder)
    | [_], _ => exact List.perm_singleton.mp (split ▸ perm.symm.filter isOrder)
  rw [← alone, same, alone, read]

end Order

namespace Statement

variable {first second : Statement}

/-- The values that are given for a name, or without one, in order. -/
def given (statement : Statement) (name : Option String) : List String :=
  (statement.arguments.filter (·.name = name)).map (·.value)

theorem positional_eq_given (statement : Statement) :
    statement.positional = statement.given none := by
  rw [positional, given, ← List.filterMap_eq_map, List.filterMap_filter]
  refine List.filterMap_congr fun argument _ => ?_
  cases argument.name <;> simp

theorem value?_eq_given (statement : Statement) (name : String) :
    statement.value? name = (statement.given (some name)).getLast? := by
  obtain ⟨operation, arguments, fields⟩ := statement
  rw [value?, named, given]
  induction arguments using List.reverseRecOn with
  | nil => rfl
  | append_singleton earlier last ih =>
      obtain ⟨_ | given, value⟩ := last
      · simpa using ih
      · by_cases same : given = name
        · simp [same]
        · have other : name ≠ given := Ne.symm same
          simpa [Json.lookup_cons_if, same, other] using ih

section Rearranging

variable (rearranged : Rearranged first.arguments second.arguments)

include rearranged

theorem positional_rearranged : second.positional = first.positional := by
  rw [positional_eq_given, positional_eq_given, given, given, rearranged none]

theorem value?_rearranged (name : String) : second.value? name = first.value? name := by
  rw [value?_eq_given, value?_eq_given, given, given, rearranged (some name)]

theorem perm_named : first.named.Perm second.named := rearranged.perm.filterMap _

theorem mem_of_mem_rearranged {argument : String × String} (member : argument ∈ second.named) :
    argument ∈ first.named :=
  (perm_named rearranged).mem_iff.mpr member

theorem unnamed_rearranged (unnamed : first.named = []) : second.named = [] :=
  List.nil_perm.mp (unnamed ▸ perm_named rearranged)

theorem projectIn?_rearranged (scope : Scope) :
    second.projectIn? scope = first.projectIn? scope := by
  rw [projectIn?, project?, value?_rearranged rearranged, positional_rearranged rearranged,
    projectIn?, project?]

theorem criteria_rearranged (scope : Scope) :
    Criteria.ofStatement scope second = Criteria.ofStatement scope first := by
  simp only [Criteria.ofStatement, checkPositional, positional_rearranged rearranged,
    projectIn?_rearranged rearranged, value?_rearranged rearranged]

theorem window_rearranged : Window.ofStatement second = Window.ofStatement first := by
  simp only [Window.ofStatement, Window.count?, value?_rearranged rearranged]

theorem boardIn?_rearranged (scope : Scope) : second.boardIn? scope = first.boardIn? scope := by
  rw [boardIn?, boardIn?, value?_rearranged rearranged]

/-- What an operation accepts, it accepts in any order. -/
theorem accepts_rearranged {scope : Scope} {selection : Selection} {operation : Operation}
    {task : Task} (accepts : Accepts scope first selection operation task) :
    Accepts scope second selection operation task := by
  cases accepts with
  | get unnamed only present =>
      exact .get (unnamed_rearranged rearranged unnamed)
        ((positional_rearranged rearranged).trans only) present
  | list known resolved ordered shown =>
      exact .list (fun argument => known argument ∘ mem_of_mem_rearranged rearranged)
        ((criteria_rearranged rearranged scope).trans resolved)
        (Order.ofArguments_of_perm (perm_named rearranged) ordered)
        ((window_rearranged rearranged).trans shown)
  | count known ordered shown resolved =>
      exact .count (fun argument => known argument ∘ mem_of_mem_rearranged rearranged)
        (Order.ofArguments_of_perm (perm_named rearranged) ordered)
        ((window_rearranged rearranged).trans shown)
        ((criteria_rearranged rearranged scope).trans resolved)
  | summary known atMostOne chosen placed =>
      rw [← projectIn?_rearranged rearranged scope] at placed ⊢
      exact .summary (fun argument => known argument ∘ mem_of_mem_rearranged rearranged)
        ((positional_rearranged rearranged).symm ▸ atMostOne)
        ((boardIn?_rearranged rearranged scope).trans chosen) placed
  | search known atMostOne given present =>
      refine .search (fun argument => known argument ∘ mem_of_mem_rearranged rearranged)
        ((positional_rearranged rearranged).symm ▸ atMostOne) ?_ present
      rw [value?_rearranged rearranged, positional_rearranged rearranged, given]
  | schema unnamed => exact .schema (unnamed_rearranged rearranged unnamed)

end Rearranging

/-- Statements with the same arguments, each name's in the same order, have the same tasks. -/
theorem task_rearranged {scope : Scope} {task : Task}
    (rearranged : Rearranged first.arguments second.arguments)
    (called : second.operation = first.operation) (shown : second.fields = first.fields)
    (accepted : first.task scope = .ok task) : second.task scope = .ok task := by
  obtain ⟨operation, selection, known, chosen, accepts⟩ := task_eq_ok_iff.mp accepted
  exact task_eq_ok_iff.mpr ⟨operation, selection, called ▸ known, shown ▸ chosen,
    accepts_rearranged rearranged accepts⟩

/-- Whether a statement is refused because of its arguments. -/
def IsInvalid (service : Service) (scope : Scope) (statement : Statement) : Prop :=
  ∃ argument message, (statement.logged service scope).1 =
    .error (.invalid statement.operation argument message)

variable {service : Service} {scope : Scope} {statement : Statement}

theorem logged_congr (same : second.task scope = first.task scope) :
    second.logged service scope = first.logged service scope := by
  rw [logged, execute, handler_eq, same, logged, execute, handler_eq]

theorem isInvalid_of_task {error : QueryError}
    (known : Operation.ofName? statement.operation ≠ none)
    (refused : statement.task scope = .error error) : IsInvalid service scope statement := by
  rcases error_of_task refused with ⟨unknown, -⟩ | ⟨argument, message, rfl⟩
  · exact absurd unknown known
  · exact ⟨argument, message, by rw [logged, execute_refused refused]; rfl⟩

theorem task_of_unknown (unknown : Operation.ofName? statement.operation = none) :
    statement.task scope = .error (.internal
      ("no handler registered for operation '" ++ statement.operation ++ "'")) := by
  rw [task, unknown]

/-- Either both statements come to the same task or the same fault, or both are invalid, though
perhaps for different reasons. -/
theorem rearranged_alike (rearranged : Rearranged first.arguments second.arguments)
    (called : second.operation = first.operation) (shown : second.fields = first.fields) :
    second.task scope = first.task scope ∨
      IsInvalid service scope first ∧ IsInvalid service scope second := by
  by_cases unknown : Operation.ofName? first.operation = none
  · rw [task_of_unknown unknown, task_of_unknown (called ▸ unknown), called]
    exact .inl rfl
  · cases judged : first.task scope with
    | ok task => exact .inl (task_rearranged rearranged called shown judged)
    | error error =>
        cases again : second.task scope with
        | ok task =>
            have accepted := task_rearranged rearranged.symm called.symm shown.symm again
            rw [judged] at accepted
            cases accepted
        | error other =>
            exact .inr ⟨isInvalid_of_task unknown judged,
              isInvalid_of_task (called ▸ unknown) again⟩

/-- The order of arguments with different names does not matter: with every order a statement
is refused as invalid, or with every order it makes the same calls and comes to the same. -/
theorem order_of_arguments_irrelevant (service : Service) (scope : Scope) (statement : Statement)
    {arguments : List Argument} (rearranged : Rearranged statement.arguments arguments) :
    (IsInvalid service scope { statement with arguments } ↔ IsInvalid service scope statement) ∧
      (¬ IsInvalid service scope statement →
        { statement with arguments }.logged service scope = statement.logged service scope) := by
  have alike : { statement with arguments }.task scope = statement.task scope ∨
      IsInvalid service scope statement ∧ IsInvalid service scope { statement with arguments } :=
    rearranged_alike rearranged rfl rfl
  rcases alike with sameTask | ⟨invalid, alsoInvalid⟩
  · have same : { statement with arguments }.logged service scope =
        statement.logged service scope := logged_congr sameTask
    exact ⟨by rw [IsInvalid, same, IsInvalid], fun _ => same⟩
  · exact ⟨iff_of_true alsoInvalid invalid, fun valid => absurd invalid valid⟩

/-- A list whose status is given twice, with an order and a window. -/
def crowdedList : Statement :=
  ⟨"list", [⟨none, "A"⟩, ⟨some "status", "Open"⟩, ⟨some "sort_key", "desc"⟩,
    ⟨some "status", "Done"⟩, ⟨some "take", "1"⟩], some ["key"]⟩

def crowdedArguments : List Argument :=
  [⟨some "take", "1"⟩, ⟨some "status", "Open"⟩, ⟨some "status", "Done"⟩, ⟨none, "A"⟩,
    ⟨some "sort_key", "desc"⟩]

/-- Two names are unknown, and each order blames the one in front. -/
def strangeGet : Statement := ⟨"get", [⟨some "x", "1"⟩, ⟨some "y", "2"⟩, ⟨none, "A-1"⟩], none⟩

def doneOfA (key : String) : Issue where
  key := key
  details := { project := some { key := "A" }, status := some { name := "Done" } }

def doneInA : Store := { issues := [doneOfA "A-1", doneOfA "A-2"] }

theorem crowded_list_rearranged :
    Rearranged crowdedList.arguments crowdedArguments ∧
      (∃ shown, crowdedList.logged doneInA.service {} =
          (.ok shown, [.issues { project := "A", status := "Done" } []]) ∧
        { crowdedList with arguments := crowdedArguments }.logged doneInA.service {} =
          (.ok shown, [.issues { project := "A", status := "Done" } []])) ∧
      IsInvalid doneInA.service {}
        { strangeGet with arguments := [⟨some "y", "2"⟩, ⟨none, "A-1"⟩, ⟨some "x", "1"⟩] } := by
  have rearranged : Rearranged crowdedList.arguments crowdedArguments := by decide
  have accepted : crowdedList.task {} = .ok (.list
      { filter := { project := "A", status := "Done" } } (some ⟨.key, .descending⟩)
      ⟨0, some 1⟩ ⟨[.key], false⟩) := rfl
  obtain ⟨shown, logged⟩ : ∃ shown, crowdedList.logged doneInA.service {} =
      (.ok shown, [.issues { project := "A", status := "Done" } []]) :=
    ⟨_, Prod.ext (logged_of_list doneInA accepted) (by decide +kernel)⟩
  have valid : ¬ IsInvalid doneInA.service {} crowdedList := by
    intro invalid
    obtain ⟨argument, message, refused⟩ := invalid
    rw [logged] at refused
    cases refused
  have refused : strangeGet.task {} =
      .error (.invalid "get" (some "x") "unknown argument 'x'") := rfl
  have invalid : IsInvalid doneInA.service {} strangeGet := isInvalid_of_task (by decide) refused
  refine ⟨rearranged, ⟨shown, logged, ?_⟩, ?_⟩
  · rw [(order_of_arguments_irrelevant doneInA.service {} crowdedList rearranged).2 valid, logged]
  · exact (order_of_arguments_irrelevant doneInA.service {} strangeGet (by decide)).1.mpr invalid

end Statement

end IssueQuery
