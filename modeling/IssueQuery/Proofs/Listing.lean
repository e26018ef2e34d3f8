import IssueQuery.Proofs.Acceptance
import IssueQuery.Proofs.Batch
import IssueQuery.Proofs.ByteOrder
import IssueQuery.Proofs.Grammar
import IssueQuery.Proofs.Numerals

namespace IssueQuery

/-! Lists of the issues in a store.

What a list shows is said here without a sorting method: an order of issues and
their places, of which there is only one, and the places of it that are shown.
-/

/-- Whether a name is the one given, apart from the case of ASCII letters.  Any name
will do if none is given, and none at all only then. -/
def SameName (actual given : Option String) : Prop :=
  ∀ wanted ∈ given, ∃ name ∈ actual, Text.lower name = Text.lower wanted

theorem Store.matchesName_iff {actual wanted : Option String} :
    Store.matchesName actual wanted = true ↔ SameName actual wanted := by
  cases wanted with
  | none => simp [matchesName, SameName]
  | some name => simp [matchesName, SameName, Option.any_eq_true, Text.sameIgnoringCase_iff]

instance {actual given : Option String} : Decidable (SameName actual given) :=
  decidable_of_iff _ Store.matchesName_iff

/-- Whether an issue is one of those that a statement about a project asks for. -/
structure Statement.Means (statement : Statement) (project : String) (issue : Issue) : Prop where
  project : SameName issue.projectKey (some project)
  type : SameName issue.typeName (statement.value? "type")
  status : SameName issue.statusName (statement.value? "status")
  assignee : SameName issue.assigneeName (statement.value? "assignee")
  priority : SameName issue.priorityName (statement.value? "priority")

instance {statement : Statement} {project : String} {issue : Issue} :
    Decidable (statement.Means project issue) :=
  decidable_of_iff
    (SameName issue.projectKey (some project) ∧
      SameName issue.typeName (statement.value? "type") ∧
      SameName issue.statusName (statement.value? "status") ∧
      SameName issue.assigneeName (statement.value? "assignee") ∧
      SameName issue.priorityName (statement.value? "priority"))
    ⟨fun ⟨project, type, status, assignee, priority⟩ =>
      ⟨project, type, status, assignee, priority⟩,
      fun ⟨project, type, status, assignee, priority⟩ =>
        ⟨project, type, status, assignee, priority⟩⟩

/-- The issues in a store that a statement about a project asks for, as inserted. -/
def Store.meant (store : Store) (statement : Statement) (project : String) : List Issue :=
  store.issues.filter fun issue => decide (statement.Means project issue)

theorem Criteria.ofStatement_eq_ok_iff {scope : Scope} {statement : Statement}
    {criteria : Criteria} :
    Criteria.ofStatement scope statement = .ok criteria ↔
      statement.positional.length ≤ 1 ∧ ∃ project, statement.projectIn? scope = some project ∧
        criteria = {
          filter := {
            project := some project
            type := statement.value? "type"
            status := statement.value? "status" }
          assignee := statement.value? "assignee"
          priority := statement.value? "priority" } := by
  simp only [ofStatement, bind_eq_ok_iff, Statement.checkPositional_eq_ok_iff, exists_const]
  refine and_congr_right fun _ => ?_
  cases statement.projectIn? scope with
  | none => simp [throw, throwThe, MonadExceptOf.throw]
  | some project => simp [pure, Except.pure, eq_comm]

/-- What the service and the criteria admit one after the other. -/
theorem Criteria.filter_admits (store : Store) {scope : Scope} {statement : Statement}
    {criteria : Criteria} (resolved : Criteria.ofStatement scope statement = .ok criteria) :
    ∃ project, statement.projectIn? scope = some project ∧
      (store.issues.filter (Store.matchesFilter criteria.filter)).filter criteria.admits =
        store.meant statement project := by
  obtain ⟨-, project, placed, rfl⟩ := ofStatement_eq_ok_iff.mp resolved
  refine ⟨project, placed, ?_⟩
  rw [List.filter_filter, Store.meant]
  apply List.filter_congr
  intro issue _
  rw [Bool.eq_iff_iff, decide_eq_true_iff]
  simp only [Criteria.admits, Store.matchesFilter, Bool.and_eq_true, Store.matchesName_iff]
  constructor
  · rintro ⟨⟨assignee, priority⟩, ⟨project, type⟩, status⟩
    exact ⟨project, type, status, assignee, priority⟩
  · rintro ⟨project, type, status, assignee, priority⟩
    exact ⟨⟨assignee, priority⟩, ⟨project, type⟩, status⟩

/-- The text by which issues can be sorted, if it is set. -/
def Field.sortText? (field : Field) (issue : Issue) : Option String :=
  match field with
  | .key => some issue.key
  | .summary => issue.details.summary
  | .status => issue.statusName
  | .assignee => issue.assigneeName
  | .type => issue.typeName
  | .priority => issue.priorityName
  | .created => issue.details.created
  | .updated => issue.details.updated
  | _ => none

theorem Field.sortKey_of_value? {field : Field} {issue : Issue} {text : Option String}
    (shown : field.value? issue = some (.ofText? text)) :
    field.sortKey issue = text.getD "" := by
  rw [sortKey, shown]
  cases text <;> rfl

theorem Field.sortKey_eq {field : Field} (sortable : field.isSortable = true) (issue : Issue) :
    field.sortKey issue = (field.sortText? issue).getD "" := by
  cases field with
  | key => rfl
  | summary => exact sortKey_of_value? rfl
  | status => exact sortKey_of_value? rfl
  | assignee => exact sortKey_of_value? rfl
  | type => exact sortKey_of_value? rfl
  | priority => exact sortKey_of_value? rfl
  | created => exact sortKey_of_value? rfl
  | updated => exact sortKey_of_value? rfl
  | _ => cases sortable

namespace Order

def key (order : Order) (issue : Issue) : List UInt8 :=
  Text.bytes ((order.field.sortText? issue).getD "")

/-- Whether the first of two issues, each with its place, stands in front of the
second: by its key, and among equal keys by its place in either direction. -/
def Precedes (order : Order) (first second : Issue × Nat) : Prop :=
  (match order.direction with
    | .ascending => order.key first.1 < order.key second.1
    | .descending => order.key second.1 < order.key first.1) ∨
  order.key first.1 = order.key second.1 ∧ first.2 < second.2

/-- Issues with their places, in the order asked for. -/
def Ranks (order : Option Order) (issues : List Issue) (ranked : List (Issue × Nat)) : Prop :=
  match order with
  | none => ranked = issues.zipIdx
  | some order => ranked.Perm issues.zipIdx ∧ ranked.Pairwise order.Precedes

variable {order : Order} {issues : List Issue}

theorem not_precedes_both {first second : Issue × Nat} (forth : order.Precedes first second)
    (back : order.Precedes second first) : first = second := by
  exfalso
  obtain ⟨field, direction⟩ := order
  cases direction with
  | ascending => grind [Precedes]
  | descending => grind [Precedes]

theorem ranks_unique {ranked other : List (Issue × Nat)} {order : Option Order}
    (ranks : Ranks order issues ranked) (alsoRanks : Ranks order issues other) :
    other = ranked := by
  cases order with
  | none => exact alsoRanks.trans ranks.symm
  | some order =>
      exact (alsoRanks.1.trans ranks.1.symm).eq_of_pairwise
        (fun _ _ _ _ => not_precedes_both) alsoRanks.2 ranks.2

theorem inOrder_trans {direction : Direction} {first second third : String}
    (front : inOrder direction first second = true)
    (behind : inOrder direction second third = true) :
    inOrder direction first third = true := by
  cases direction with
  | ascending =>
      simp only [inOrder, decide_eq_true_iff] at front behind ⊢
      exact front.trans behind
  | descending =>
      simp only [inOrder, decide_eq_true_iff] at front behind ⊢
      exact behind.trans front

theorem inOrder_total (direction : Direction) (first second : String) :
    (inOrder direction first second || inOrder direction second first) = true := by
  cases direction with
  | ascending => simpa [inOrder] using le_total first second
  | descending => simpa [inOrder] using le_total second first

def mayPrecede (order : Order) (first second : Issue) : Bool :=
  inOrder order.direction (order.field.sortKey first) (order.field.sortKey second)

theorem sort_eq_mergeSort (order : Order) (issues : List Issue) :
    order.sort issues = issues.mergeSort order.mayPrecede := by
  have keyed := List.map_mergeSort (r := order.mayPrecede)
    (s := fun first second : String × Issue => inOrder order.direction first.1 second.1)
    (f := fun issue => (order.field.sortKey issue, issue)) (l := issues) fun _ _ _ _ => rfl
  rw [sort, ← keyed, List.map_map]
  exact List.map_id _

theorem key_eq (sortable : order.field.isSortable = true) (issue : Issue) :
    order.key issue = Text.bytes (order.field.sortKey issue) := by
  rw [key, Field.sortKey_eq sortable]

theorem precedes_of_zipIdxLE (sortable : order.field.isSortable = true)
    {first second : Issue × Nat} (apart : first.2 ≠ second.2)
    (sorted : List.zipIdxLE order.mayPrecede first second = true) :
    order.Precedes first second := by
  obtain ⟨field, direction⟩ := order
  cases direction with
  | ascending =>
      simp only [Precedes, key_eq sortable, Text.bytes_lt_bytes_iff]
      simp only [List.zipIdxLE, mayPrecede, inOrder, decide_eq_true_iff] at sorted
      grind
  | descending =>
      simp only [Precedes, key_eq sortable, Text.bytes_lt_bytes_iff]
      simp only [List.zipIdxLE, mayPrecede, inOrder, decide_eq_true_iff] at sorted
      grind

theorem mayPrecede_trans (first second third : Issue)
    (front : order.mayPrecede first second = true)
    (behind : order.mayPrecede second third = true) : order.mayPrecede first third = true :=
  inOrder_trans front behind

theorem mayPrecede_total (first second : Issue) :
    (order.mayPrecede first second || order.mayPrecede second first) = true :=
  inOrder_total order.direction (order.field.sortKey first) (order.field.sortKey second)

/-- Sorting ranks issues: it keeps the places of those with equal keys. -/
theorem ranks_sort (sortable : order.field.isSortable = true) (issues : List Issue) :
    ∃ ranked, Ranks order issues ranked ∧ ranked.map (·.1) = order.sort issues := by
  let le := List.zipIdxLE order.mayPrecede
  have permuted : (issues.zipIdx.mergeSort le).Perm issues.zipIdx := List.mergeSort_perm _ le
  have sorted : (issues.zipIdx.mergeSort le).Pairwise fun first second => le first second = true :=
    List.pairwise_mergeSort (List.zipIdxLE_trans mayPrecede_trans)
      (List.zipIdxLE_total mayPrecede_total) _
  have apart : (issues.zipIdx.mergeSort le).Pairwise fun first second => first.2 ≠ second.2 := by
    have places : ((issues.zipIdx.mergeSort le).map (·.2)).Nodup := by
      rw [(permuted.map _).nodup_iff, List.zipIdx_map_snd]
      exact List.nodup_range'
    exact List.pairwise_map.mp places
  refine ⟨issues.zipIdx.mergeSort le, ⟨permuted, ?_⟩, ?_⟩
  · exact (sorted.and apart).imp fun ⟨inOrder, different⟩ =>
      precedes_of_zipIdxLE sortable different inOrder
  · rw [sort_eq_mergeSort, List.mergeSort_zipIdx]

def arrange (order : Option Order) (issues : List Issue) : List Issue :=
  match order with
  | none => issues
  | some order => order.sort issues

/-- The order that named arguments ask for: at most one of them is about an order. -/
def AskedBy (arguments : List (String × String)) (order : Option Order) : Prop :=
  match order with
  | none => ∀ argument ∈ arguments, ¬ "sort_".toList <+: argument.1.toList
  | some order =>
      order.field.isSortable = true ∧ ∃ earlier value later,
        arguments = earlier ++ ("sort_" ++ order.field.name, value) :: later ∧
          Text.lower value = (match order.direction with
            | .ascending => "asc"
            | .descending => "desc") ∧
          ∀ argument ∈ earlier ++ later, ¬ "sort_".toList <+: argument.1.toList

theorem fieldName?_eq_none_iff {argument : String} :
    fieldName? argument = none ↔ ¬ "sort_".toList <+: argument.toList := by
  rw [fieldName?, ← List.isPrefixOf_iff_prefix, argumentStart]
  split <;> simp_all

theorem eq_of_fieldName? {argument name : String} (named : fieldName? argument = some name) :
    argument = "sort_" ++ name := by
  unfold fieldName? at named
  split at named
  · rename_i starts
    obtain ⟨rest, spelled⟩ := List.isPrefixOf_iff_prefix.mp starts
    cases named
    apply String.toList_injective
    rw [← spelled, List.drop_left, String.toList_append, @String.toList_ofList rest]
    rfl
  · cases named

theorem ofArgument_eq_ok {argument name value : String} {order : Order}
    (read : ofArgument argument name value = .ok order) :
    order.field.isSortable = true ∧ order.field.name = name ∧
      Text.lower value = (match order.direction with
        | .ascending => "asc"
        | .descending => "desc") := by
  unfold ofArgument at read
  split at read
  · cases read
  · rename_i field found
    obtain ⟨known, sortable⟩ := Option.filter_eq_some_iff.mp found
    unfold directionOf? at read
    split at read
    · cases read
    · rename_i direction spelled
      cases read
      refine ⟨sortable, Field.name_of_ofName? known, ?_⟩
      split at spelled <;> cases spelled <;> assumption

theorem exists_ranks {arguments : List (String × String)} {order : Option Order}
    (asked : AskedBy arguments order) (issues : List Issue) :
    ∃ ranked, Ranks order issues ranked ∧ ranked.map (·.1) = arrange order issues := by
  cases order with
  | none => exact ⟨issues.zipIdx, rfl, List.zipIdx_map_fst _ _⟩
  | some order => exact ranks_sort asked.1 issues

theorem askedBy_of_ofArguments {arguments : List (String × String)} {order : Option Order}
    (read : ofArguments arguments = .ok order) : AskedBy arguments order := by
  induction arguments with
  | nil =>
      cases read
      simp [AskedBy]
  | cons argument rest ih =>
      unfold ofArguments at read
      split at read
      · rename_i unnamed
        have other := fieldName?_eq_none_iff.mp unnamed
        cases order with
        | none => exact List.forall_mem_cons.mpr ⟨other, ih read⟩
        | some order =>
            obtain ⟨sortable, earlier, value, later, rfl, spelled, others⟩ := ih read
            exact ⟨sortable, argument :: earlier, value, later, rfl, spelled,
              List.forall_mem_cons.mpr ⟨other, others⟩⟩
      · rename_i name named
        obtain ⟨asked, ofArgument, made⟩ := bind_eq_ok_iff.mp read
        split at made
        · cases made
        · rename_i alone
          cases made
          obtain ⟨sortable, rfl, spelled⟩ := ofArgument_eq_ok ofArgument
          refine ⟨sortable, [], argument.2, rest, ?_, spelled, ?_⟩
          · rw [List.nil_append, ← eq_of_fieldName? named]
          · intro other member
            have unnamed := List.find?_eq_none.mp alone other member
            exact fieldName?_eq_none_iff.mp (by simpa using unnamed)

end Order

namespace Window

/-- Whether a text writes a number, of at most 64 bits. -/
def Counts (text : String) (count : Nat) : Prop :=
  Text.natural? text = some count ∧ count < 2 ^ 64

theorem rel_of_count? {statement : Statement} {argument : String} {count : Option Nat}
    (read : count? statement argument = .ok count) :
    Option.Rel Counts (statement.value? argument) count := by
  unfold count? at read
  split at read
  · rename_i absent
    cases read
    rw [absent]
    exact .none
  · rename_i text given
    split at read
    · rename_i word written
      cases read
      rw [given]
      have spelled := Text.natural?_eq_some_iff.mpr (Text.word?_eq_some_iff.mp written)
      exact .some ⟨spelled, word.toNat_lt⟩
    · cases read

theorem ofStatement_eq_ok {statement : Statement} {window : Window}
    (read : ofStatement statement = .ok window) :
    ∃ skip, Option.Rel Counts (statement.value? "skip") skip ∧
      ∃ take, Option.Rel Counts (statement.value? "take") take ∧ ⟨skip.getD 0, take⟩ = window := by
  obtain ⟨skip, skipped, following⟩ := bind_eq_ok_iff.mp read
  obtain ⟨take, taken, made⟩ := bind_eq_ok_iff.mp following
  exact ⟨skip, rel_of_count? skipped, take, rel_of_count? taken, Except.ok.inj made⟩

theorem getElem?_apply {α : Type} (window : Window) (items : List α) (place : Nat) :
    (window.apply items)[place]? =
      if ∀ count ∈ window.take, place < count then items[window.skip + place]? else none := by
  unfold apply
  cases window.take with
  | none => simp
  | some count => simp [List.getElem?_take]

end Window

theorem Handler.shownIssues_eq (criteria : Criteria) (order : Option Order) (window : Window)
    (issues : List Issue) :
    Handler.shownIssues criteria order window issues =
      window.apply (Order.arrange order (issues.filter criteria.admits)) := by
  cases order <;> rfl

namespace Statement

theorem logged_of_list (store : Store) {scope : Scope} {statement : Statement}
    {criteria : Criteria} {order : Option Order} {window : Window} {selection : Selection}
    (accepted : statement.task scope = .ok (.list criteria order window selection)) :
    (statement.logged store.service scope).1 =
      .ok (Handler.showIssues selection (Handler.shownIssues criteria order window
        (store.issues.filter (Store.matchesFilter criteria.filter)))) := by
  simp [logged, execute_accepted accepted, Task.plan, Task.listPlan, Plan.run, Service.logged,
    Store.service, Except.mapError]

/-- Whether a value is what a list is to show: of the issues that it means, those in its
window, in the only order that is the one asked for. -/
def Lists (store : Store) (scope : Scope) (statement : Statement) (value : Value) : Prop :=
  ∃ project order skip take selection,
    statement.projectIn? scope = some project ∧ Order.AskedBy statement.named order ∧
    Option.Rel Window.Counts (statement.value? "skip") skip ∧
    Option.Rel Window.Counts (statement.value? "take") take ∧
    Selection.ofNames (statement.fields.getD []) = .ok selection ∧
    ∃ ranked, Order.Ranks order (store.meant statement project) ranked ∧
      (∀ other, Order.Ranks order (store.meant statement project) other → other = ranked) ∧
      ∃ shown : List Issue,
        (∀ place, shown[place]? =
          if ∀ count ∈ take, place < count then (ranked[skip.getD 0 + place]?).map (·.1)
          else none) ∧
        value = .list (shown.map fun issue => .ofRecord (selection.project issue))

/-- An accepted list returns what it is to show. -/
theorem list_shows_ranked_window (store : Store) {scope : Scope} {statement : Statement}
    {task : Task} (isList : statement.operation = "list")
    (accepted : statement.task scope = .ok task) :
    ∃ value, (statement.logged store.service scope).1 = .ok value ∧
      statement.Lists store scope value := by
  obtain ⟨operation, selection, known, chosen, accepts⟩ := task_eq_ok_iff.mp accepted
  rw [isList] at known
  cases known
  cases accepts with
  | @list criteria order window _ resolved ordered windowed =>
      obtain ⟨project, placed, admitted⟩ := Criteria.filter_admits store resolved
      obtain ⟨skip, skipped, take, taken, rfl⟩ := Window.ofStatement_eq_ok windowed
      have asked := Order.askedBy_of_ofArguments ordered
      obtain ⟨ranked, ranks, sorted⟩ := Order.exists_ranks asked (store.meant statement project)
      have returned := logged_of_list store accepted
      rw [Handler.shownIssues_eq, admitted] at returned
      refine ⟨_, returned, project, order, skip, take, selection, placed, asked, skipped, taken,
        chosen, ranked, ranks, fun other => Order.ranks_unique ranks, _, fun place => ?_, rfl⟩
      rw [Window.getElem?_apply, ← sorted, List.getElem?_map]

def issueOfA (number summary status : String) : Issue where
  key := "A-" ++ number
  details := {
    project := some { key := "A" }
    summary := some summary
    status := some { name := status } }

def lastOpenIssues : Statement :=
  ⟨"list", [⟨none, " a "⟩, ⟨some "status", "OPEN"⟩, ⟨some "sort_summary", "DESC"⟩,
    ⟨some "skip", "1"⟩, ⟨some "take", "18446744073709551615"⟩], some ["key"]⟩

theorem last_open_issues_shown :
    lastOpenIssues.operation = "list" ∧
      lastOpenIssues.task {} = .ok (.list { filter := { project := "a", status := "OPEN" } }
        (some ⟨.summary, .descending⟩) ⟨1, some 18446744073709551615⟩ ⟨[.key], false⟩) ∧
      ∃ value, (lastOpenIssues.logged (Store.service
          { issues := [issueOfA "1" "b" "Open", issueOfA "2" "a" "Open", issueOfA "3" "b" "open",
              issueOfA "4" "c" "Done"] }) {}).1 = .ok value ∧
        lastOpenIssues.Lists
          { issues := [issueOfA "1" "b" "Open", issueOfA "2" "a" "Open", issueOfA "3" "b" "open",
              issueOfA "4" "c" "Done"] } {} value := by
  have accepted : lastOpenIssues.task {} =
      .ok (.list { filter := { project := "a", status := "OPEN" } }
        (some ⟨.summary, .descending⟩) ⟨1, some 18446744073709551615⟩ ⟨[.key], false⟩) := by
    decide +kernel
  exact ⟨rfl, accepted, list_shows_ranked_window _ rfl accepted⟩

end Statement

end IssueQuery
