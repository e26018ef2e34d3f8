import IssueQuery.Proofs.Listing
import IssueQuery.Proofs.Narrowing
import IssueQuery.Proofs.Numerals

namespace IssueQuery

/-! Counts, lists and pages of lists.

A count and a list with the same arguments are about the same issues.  The arguments for a
window decide which of them a list shows, and nothing else: `whole` leaves these arguments
out, and every other check and every other part of the task is the same without them.
-/

def isWindowName (name : String) : Bool := name == "skip" || name == "take"

/-- Whether an argument says which part of a list is shown. -/
def Argument.isWindow (argument : Argument) : Bool := argument.name.any isWindowName

/-- Entries of other names do not matter to a name. -/
theorem lookup_filter {α : Type} {keeps : String × α → Bool} {name : String}
    (kept : ∀ value, keeps (name, value) = true) (entries : List (String × α)) :
    (entries.filter keeps).lookup name = entries.lookup name := by
  induction entries with
  | nil => rfl
  | cons entry rest ih =>
      obtain ⟨head, content⟩ := entry
      by_cases keptHere : keeps (head, content) = true
      · rw [List.filter_cons_of_pos keptHere, Json.lookup_cons_if, Json.lookup_cons_if, ih]
      · have different : name ≠ head := by
          rintro rfl
          exact keptHere (kept content)
        rw [List.filter_cons_of_neg keptHere, Json.lookup_cons_if, if_neg different, ih]

theorem Order.fieldName?_of_isWindowName {name : String} (isWindow : isWindowName name = true) :
    fieldName? name = none := by
  simp only [isWindowName, Bool.or_eq_true, beq_iff_eq] at isWindow
  rcases isWindow with rfl | rfl <;> decide

/-- Arguments that are about no order do not matter to it. -/
theorem Order.ofArguments_filter {keeps : String × String → Bool}
    (kept : ∀ argument, (fieldName? argument.1).isSome = true → keeps argument = true)
    (arguments : List (String × String)) :
    ofArguments (arguments.filter keeps) = ofArguments arguments := by
  induction arguments with
  | nil => rfl
  | cons argument rest ih =>
      have alone : ((rest.filter keeps).find? fun other => (fieldName? other.1).isSome) =
          rest.find? fun other => (fieldName? other.1).isSome := by
        rw [List.find?_filter]
        congr 1
        funext other
        by_cases isOrder : (fieldName? other.1).isSome = true
        · simp [isOrder, kept other isOrder]
        · simp [isOrder]
      by_cases keptHere : keeps argument = true
      · rw [List.filter_cons_of_pos keptHere, ofArguments, ofArguments, ih, alone]
      · have unnamed : fieldName? argument.1 = none := by
          cases named : fieldName? argument.1 with
          | none => rfl
          | some name => exact absurd (kept argument (by rw [named]; rfl)) keptHere
        rw [List.filter_cons_of_neg keptHere, ofArguments, unnamed, ih]

namespace Statement

/-- The statement without its arguments for a window. -/
def whole (statement : Statement) : Statement :=
  { statement with arguments := statement.arguments.filter (!·.isWindow) }

theorem positional_whole (statement : Statement) :
    statement.whole.positional = statement.positional := by
  rw [positional, positional, whole, List.filterMap_filter]
  refine List.filterMap_congr fun argument _ => ?_
  obtain ⟨name, value⟩ := argument
  cases name with
  | none => rfl
  | some name => simp

theorem named_whole (statement : Statement) :
    statement.whole.named = statement.named.filter fun argument => !isWindowName argument.1 := by
  rw [named, named, whole, List.filterMap_filter, List.filter_filterMap]
  refine List.filterMap_congr fun argument _ => ?_
  obtain ⟨name, value⟩ := argument
  cases name with
  | none => simp
  | some name => simp [Argument.isWindow, Option.filter]

theorem value?_whole (statement : Statement) {name : String}
    (other : isWindowName name = false) :
    statement.whole.value? name = statement.value? name := by
  rw [value?, named_whole, ← List.filter_reverse, lookup_filter (by simp [other]), value?]

theorem ofArguments_whole (statement : Statement) :
    Order.ofArguments statement.whole.named = Order.ofArguments statement.named := by
  rw [named_whole]
  refine Order.ofArguments_filter (fun argument isOrder => ?_) statement.named
  by_contra isWindow
  rw [Order.fieldName?_of_isWindowName (by simpa using isWindow)] at isOrder
  cases isOrder

theorem known_whole_iff (statement : Statement) :
    (∀ argument ∈ statement.whole.named, isListArgument argument.1) ↔
      ∀ argument ∈ statement.named, isListArgument argument.1 := by
  rw [named_whole]
  refine ⟨fun known argument member => ?_, fun known argument member =>
    known argument (List.mem_of_mem_filter member)⟩
  by_cases isWindow : isWindowName argument.1 = true
  · simp only [isWindowName, Bool.or_eq_true, beq_iff_eq] at isWindow
    rcases isWindow with isSkip | isTake
    · rw [isSkip]; decide
    · rw [isTake]; decide
  · exact known argument (List.mem_filter.mpr ⟨member, by simpa using isWindow⟩)

theorem projectIn?_whole (statement : Statement) (scope : Scope) :
    statement.whole.projectIn? scope = statement.projectIn? scope := by
  rw [projectIn?, project?, value?_whole statement rfl, positional_whole, projectIn?, project?]

theorem criteria_whole (statement : Statement) (scope : Scope) :
    Criteria.ofStatement scope statement.whole = Criteria.ofStatement scope statement := by
  simp only [Criteria.ofStatement, checkPositional, positional_whole, projectIn?_whole,
    value?_whole statement (rfl : isWindowName "type" = false),
    value?_whole statement (rfl : isWindowName "status" = false),
    value?_whole statement (rfl : isWindowName "assignee" = false),
    value?_whole statement (rfl : isWindowName "priority" = false)]

/-- What a list or a count asks for, apart from the window. -/
structure Asks (scope : Scope) (statement : Statement) (criteria : Criteria)
    (order : Option Order) (selection : Selection) : Prop where
  known : ∀ argument ∈ statement.named, isListArgument argument.1
  resolved : Criteria.ofStatement scope statement = .ok criteria
  ordered : Order.ofArguments statement.named = .ok order
  chosen : Selection.ofNames (statement.fields.getD []) = .ok selection

section Asking

variable {scope : Scope} {statement : Statement} {criteria : Criteria} {order : Option Order}
  {window : Window} {selection : Selection} {task : Task}

theorem asks_whole_iff :
    Asks scope statement.whole criteria order selection ↔
      Asks scope statement criteria order selection := by
  constructor
  · rintro ⟨known, resolved, ordered, chosen⟩
    exact ⟨statement.known_whole_iff.mp known, statement.criteria_whole scope ▸ resolved,
      statement.ofArguments_whole ▸ ordered, chosen⟩
  · rintro ⟨known, resolved, ordered, chosen⟩
    exact ⟨statement.known_whole_iff.mpr known, (statement.criteria_whole scope).trans resolved,
      statement.ofArguments_whole.trans ordered, chosen⟩

/-- The name of the operation and the window do not matter. -/
theorem Asks.congr {other : Statement} (asks : Asks scope statement criteria order selection)
    (arguments : other.whole.arguments = statement.whole.arguments)
    (fields : other.fields = statement.fields) :
    Asks scope other criteria order selection := by
  rw [← asks_whole_iff] at asks ⊢
  obtain ⟨known, resolved, ordered, chosen⟩ := asks
  have same : other.whole = ⟨other.operation, statement.whole.arguments, statement.fields⟩ := by
    rw [← arguments, ← fields]
    rfl
  rw [same]
  exact ⟨known, resolved, ordered, chosen⟩

theorem task_of_list (isList : statement.operation = "list") :
    statement.task scope = .ok task ↔
      ∃ criteria order window selection, Asks scope statement criteria order selection ∧
        Window.ofStatement statement = .ok window ∧
        task = .list criteria order window selection := by
  rw [task_eq_ok_iff, isList]
  constructor
  · rintro ⟨operation, selection, known, chosen, accepts⟩
    cases known
    cases accepts with
    | list known resolved ordered shown =>
        exact ⟨_, _, _, _, ⟨known, resolved, ordered, chosen⟩, shown, rfl⟩
  · rintro ⟨criteria, order, window, selection, ⟨known, resolved, ordered, chosen⟩, shown, rfl⟩
    exact ⟨.list, selection, rfl, chosen, .list known resolved ordered shown⟩

theorem task_of_count (isCount : statement.operation = "count") :
    statement.task scope = .ok task ↔
      ∃ criteria order window selection, Asks scope statement criteria order selection ∧
        Window.ofStatement statement = .ok window ∧ task = .count criteria := by
  rw [task_eq_ok_iff, isCount]
  constructor
  · rintro ⟨operation, selection, known, chosen, accepts⟩
    cases known
    cases accepts with
    | count known ordered shown resolved =>
        exact ⟨_, _, _, _, ⟨known, resolved, ordered, chosen⟩, shown, rfl⟩
  · rintro ⟨criteria, order, window, selection, ⟨known, resolved, ordered, chosen⟩, shown, rfl⟩
    exact ⟨.count, selection, rfl, chosen, .count known ordered shown resolved⟩

/-- The issues in a store that are asked for, in order and as they are shown. -/
def asked (store : Store) (criteria : Criteria) (order : Option Order) (selection : Selection) :
    List Value :=
  (Order.arrange order ((store.issues.filter (Store.matchesFilter criteria.filter)).filter
    criteria.admits)).map fun issue => .ofRecord (selection.project issue)

theorem length_asked (store : Store) :
    (asked store criteria order selection).length =
      ((store.issues.filter (Store.matchesFilter criteria.filter)).filter
        criteria.admits).length := by
  rw [asked, List.length_map]
  cases order with
  | none => rfl
  | some order =>
      rw [Order.arrange, Order.sort_eq_mergeSort]
      exact (List.mergeSort_perm _ _).length_eq

theorem length_asked_le (store : Store) (criteria : Criteria) (order : Option Order)
    (selection : Selection) :
    (asked store criteria order selection).length ≤ store.issues.length := by
  rw [length_asked]
  exact (List.length_filter_le _ _).trans (List.length_filter_le _ _)

/-- What is accepted is carried out, since a store always answers. -/
theorem logged_list (store : Store) (isList : statement.operation = "list")
    (asks : Asks scope statement criteria order selection)
    (shown : Window.ofStatement statement = .ok window) :
    (statement.logged store.service scope).1 =
      .ok (.list (window.apply (asked store criteria order selection))) := by
  have accepted := (task_of_list isList).mpr ⟨_, _, _, _, asks, shown, rfl⟩
  rw [logged_of_list store accepted, Handler.shownIssues_eq, Handler.showIssues, asked,
    Window.apply_map]

theorem logged_of_count (store : Store) (accepted : statement.task scope = .ok (.count criteria)) :
    (statement.logged store.service scope).1 =
      .ok (.ofRecord (.ofList [("count",
        .ofNat ((store.issues.filter (Store.matchesFilter criteria.filter)).filter
          criteria.admits).length)])) := by
  simp [logged, execute_accepted accepted, Task.plan, Task.countPlan, Plan.run, Service.logged,
    Store.service, Except.mapError]

theorem logged_count (store : Store) (isCount : statement.operation = "count")
    (asks : Asks scope statement criteria order selection)
    (shown : Window.ofStatement statement = .ok window) :
    (statement.logged store.service scope).1 =
      .ok (.ofRecord (.ofList
        [("count", .ofNat (asked store criteria order selection).length)])) := by
  have accepted := (task_of_count isCount).mpr ⟨_, _, _, _, asks, shown, rfl⟩
  rw [length_asked, logged_of_count store accepted]

theorem exists_task_of_logged {service : Service} {value : Value}
    (returned : (statement.logged service scope).1 = .ok value) :
    ∃ task, statement.task scope = .ok task := by
  cases judged : statement.task scope with
  | error verdict =>
      rw [logged, execute_refused judged] at returned
      cases returned
  | ok task => exact ⟨task, rfl⟩

end Asking

/-- The part of a list that is its page of a number, from zero on, if pages are of a size. -/
def page (statement : Statement) (size : UInt64) (number : Nat) : Statement :=
  { statement with
    arguments := statement.whole.arguments ++
      [⟨some "skip", toString (number * size.toNat)⟩, ⟨some "take", toString size.toNat⟩] }

theorem whole_page (statement : Statement) (size : UInt64) (number : Nat) :
    (statement.page size number).whole.arguments = statement.whole.arguments := by
  simp [page, whole, Argument.isWindow, isWindowName]

theorem value?_page (statement : Statement) (size : UInt64) (number : Nat) :
    (statement.page size number).value? "skip" = some (toString (number * size.toNat)) ∧
      (statement.page size number).value? "take" = some (toString size.toNat) := by
  simp [value?, named, page, List.lookup_cons]

end Statement

namespace Window

theorem count?_of_written {statement : Statement} {argument : String} {number : Nat}
    (given : statement.value? argument = some (toString number)) (bounded : number < 2 ^ 64) :
    count? statement argument = .ok (some number) := by
  have same : number.toUInt64.toNat = number := UInt64.toNat_ofNat_of_lt' bounded
  have read : Text.word? (toString number) = some number.toUInt64 :=
    Text.word?_eq_some_iff.mpr (same.symm ▸ Text.writesNumber_toString number)
  simp only [count?, given, read, same]

theorem ofStatement_page (statement : Statement) {size : UInt64} {number : Nat}
    (bounded : number * size.toNat < 2 ^ 64) :
    ofStatement (statement.page size number) = .ok ⟨number * size.toNat, some size.toNat⟩ := by
  obtain ⟨skip, take⟩ := statement.value?_page size number
  simp only [ofStatement, count?_of_written skip bounded, count?_of_written take size.toNat_lt]
  rfl

theorem ofStatement_whole (statement : Statement) :
    ofStatement statement.whole = .ok ⟨0, none⟩ := by
  have absent {name : String} (isWindow : isWindowName name = true) :
      count? statement.whole name = .ok none := by
    have unset : statement.whole.value? name = none := by
      rw [Statement.value?, Statement.named_whole, List.lookup_eq_none_iff]
      intro argument member
      have other := (List.mem_filter.mp (List.mem_reverse.mp member)).2
      by_contra same
      have same : name = argument.1 := by simpa using same
      rw [← same, isWindow] at other
      cases other
    rw [count?, unset]
  simp only [ofStatement, absent (rfl : isWindowName "skip" = true),
    absent (rfl : isWindowName "take" = true)]
  rfl

variable {α : Type}

/-- Pages of one size put end to end. -/
theorem flatten_pages (items : List α) (size count : Nat) :
    ((List.range count).map fun number =>
      (⟨number * size, some size⟩ : Window).apply items).flatten = items.take (count * size) := by
  induction count with
  | zero => simp
  | succ count ih =>
      rw [List.range_succ, List.map_append, List.flatten_append, ih, Nat.succ_mul, List.take_add]
      simp [apply]

end Window

/-- A list of any length is cut into pages none of which is empty, up to an empty one, and
with words for the numbers of the items in front of them. -/
theorem exists_pageCount {length size : Nat} (positive : 0 < size) (small : length < 2 ^ 63)
    (isWord : size < 2 ^ 64) :
    ∃ count, length ≤ count * size ∧ count * size < 2 ^ 64 ∧
      ∀ number < count, number * size < length := by
  let count := (length + size - 1) / size
  have below : count * size ≤ length + size - 1 := Nat.div_mul_le_self _ _
  have above : length + size - 1 < count * size + size := Nat.lt_div_mul_add positive
  refine ⟨count, by omega, ?_, fun number smaller => ?_⟩
  · rcases Nat.lt_or_ge length size with short | long
    · have one : count < 2 := Nat.lt_of_mul_lt_mul_right (a := size) (by omega)
      have atMost : count * size ≤ 1 * size := Nat.mul_le_mul_right size (by omega)
      omega
    · omega
  · have step : (number + 1) * size ≤ count * size := Nat.mul_le_mul_right size smaller
    rw [Nat.succ_mul] at step
    omega

theorem Value.ofNat_of_lt {number : Nat} (small : number < 2 ^ 63) :
    Value.ofNat number = .int number := by
  rw [ofNat, greatestInt, Text.natPow_two_63, min_eq_left]
  omega

namespace Statement

/-- A statement with other arguments for a window has the same issues to show. -/
theorem logged_page (store : Store) {scope : Scope} {statement : Statement}
    {criteria : Criteria} {order : Option Order} {selection : Selection}
    (isList : statement.operation = "list")
    (asks : Asks scope statement criteria order selection) {size : UInt64} {number : Nat}
    (bounded : number * size.toNat < 2 ^ 64) :
    ((statement.page size number).logged store.service scope).1 =
      .ok (.list (((asked store criteria order selection).drop (number * size.toNat)).take
        size.toNat)) := by
  have pageIsList : (statement.page size number).operation = "list" := isList
  exact logged_list store pageIsList (asks.congr (statement.whole_page size number) rfl)
    (Window.ofStatement_page statement bounded)

theorem exists_pages (store : Store) {scope : Scope} {statement : Statement}
    {criteria : Criteria} {order : Option Order} {selection : Selection}
    (isList : statement.operation = "list")
    (asks : Asks scope statement criteria order selection)
    (held : store.issues.length < 2 ^ 63) {size : UInt64} (positive : 0 < size) :
    ∃ pages : List (List Value), pages.flatten = asked store criteria order selection ∧
      (∀ page ∈ pages, page ≠ []) ∧
      (∀ number page, pages[number]? = some page →
        ((statement.page size number).logged store.service scope).1 = .ok (.list page)) ∧
      ((statement.page size pages.length).logged store.service scope).1 = .ok (.list []) := by
  have small := (length_asked_le store criteria order selection).trans_lt held
  obtain ⟨count, enough, isWord, full⟩ :=
    exists_pageCount (UInt64.lt_iff_toNat_lt.mp positive) small size.toNat_lt
  refine ⟨(List.range count).map fun number =>
    (⟨number * size.toNat, some size.toNat⟩ : Window).apply (asked store criteria order selection),
    ?_, ?_, ?_, ?_⟩
  · rw [Window.flatten_pages, List.take_of_length_le enough]
  · intro page member
    obtain ⟨number, inRange, rfl⟩ := List.mem_map.mp member
    have started := full number (List.mem_range.mp inRange)
    intro empty
    have length := congrArg List.length empty
    have := UInt64.lt_iff_toNat_lt.mp positive
    simp only [Window.apply, List.length_take, List.length_drop, List.length_nil] at length
    simp at this
    omega
  · intro number page found
    rw [List.getElem?_map, Option.map_eq_some_iff] at found
    obtain ⟨same, inRange, rfl⟩ := found
    obtain ⟨smaller, rfl⟩ := List.getElem?_eq_some_iff.mp inRange
    rw [List.length_range] at smaller
    have started := full number smaller
    rw [List.getElem_range, logged_page store isList asks (by omega)]
    rfl
  · rw [List.length_map, List.length_range, logged_page store isList asks isWord,
      List.drop_of_length_le enough, List.take_nil]

/-- A count succeeds with the arguments of a list that succeeds, and with no others.  Its
number is the length of the list without a window, from which that of the list follows.  If
the store fits into memory, then the pages of any size up to the first empty one, put end to
end, are the list without a window. -/
theorem counted_as_listed (store : Store) (scope : Scope) {counting listing : Statement}
    (isCount : counting.operation = "count") (isList : listing.operation = "list")
    (arguments : counting.arguments = listing.arguments)
    (fields : counting.fields = listing.fields) :
    ((∃ value, (counting.logged store.service scope).1 = .ok value) ↔
      ∃ value, (listing.logged store.service scope).1 = .ok value) ∧
    ∀ counted, (counting.logged store.service scope).1 = .ok counted →
      ∃ items : List Value,
        counted = .ofRecord (.ofList [("count", .ofNat items.length)]) ∧
        (listing.whole.logged store.service scope).1 = .ok (.list items) ∧
        (∃ skip take shown,
          Option.Rel Window.Counts (listing.value? "skip") skip ∧
          Option.Rel Window.Counts (listing.value? "take") take ∧
          (listing.logged store.service scope).1 = .ok (.list shown) ∧
          shown.length =
            (match take with
              | none => items.length - skip.getD 0
              | some count => min count (items.length - skip.getD 0))) ∧
        (store.issues.length < 2 ^ 63 →
          counted = .record [("count", .int items.length)] ∧
          ∀ size : UInt64, 0 < size →
            ∃ pages : List (List Value), pages.flatten = items ∧ (∀ page ∈ pages, page ≠ []) ∧
              (∀ number page, pages[number]? = some page →
                ((listing.page size number).logged store.service scope).1 = .ok (.list page)) ∧
              ((listing.page size pages.length).logged store.service scope).1 = .ok (.list [])) := by
  have whole : counting.whole.arguments = listing.whole.arguments := by
    simp only [Statement.whole, arguments]
  have window : Window.ofStatement counting = Window.ofStatement listing := by
    simp only [Window.ofStatement, Window.count?, value?, named, arguments]
  refine ⟨⟨?_, ?_⟩, fun counted returned => ?_⟩
  · rintro ⟨value, returned⟩
    obtain ⟨task, accepted⟩ := exists_task_of_logged returned
    obtain ⟨_, _, _, _, asks, shown, -⟩ := (task_of_count isCount).mp accepted
    exact ⟨_, logged_list store isList (asks.congr whole.symm fields.symm) (window ▸ shown)⟩
  · rintro ⟨value, returned⟩
    obtain ⟨task, accepted⟩ := exists_task_of_logged returned
    obtain ⟨_, _, _, _, asks, shown, -⟩ := (task_of_list isList).mp accepted
    exact ⟨_, logged_count store isCount (asks.congr whole fields) (window.trans shown)⟩
  · obtain ⟨task, accepted⟩ := exists_task_of_logged returned
    obtain ⟨criteria, order, _, selection, counts, shown, -⟩ :=
      (task_of_count isCount).mp accepted
    have lists := counts.congr whole.symm fields.symm
    have wholeIsList : listing.whole.operation = "list" := isList
    have unpaged := logged_list store wholeIsList (asks_whole_iff.mpr lists)
      (Window.ofStatement_whole listing)
    rw [logged_count store isCount counts shown] at returned
    rw [window] at shown
    obtain ⟨skip, skipped, take, taken, rfl⟩ := Window.ofStatement_eq_ok shown
    refine ⟨asked store criteria order selection, (Except.ok.inj returned).symm, unpaged,
      ⟨skip, take, _, skipped, taken, logged_list store isList lists shown, ?_⟩,
      fun held => ⟨?_, fun size positive => exists_pages store isList lists held positive⟩⟩
    · cases take <;> simp [Window.apply]
    · have small := (length_asked_le store criteria order selection).trans_lt held
      rw [← Except.ok.inj returned, Value.ofNat_of_lt small]
      rfl

/-- The second of the issues of a project, or how many there are. -/
def secondOfA (operation : String) : Statement :=
  ⟨operation, [⟨some "project", "a"⟩, ⟨some "skip", "+1"⟩, ⟨some "sort_key", "desc"⟩,
    ⟨some "take", "1"⟩], some ["key"]⟩

def threeOfA : Store :=
  { issues := [issueOfA "1" "b" "Open", issueOfA "2" "a" "Done", issueOfA "3" "b" "Open"] }

theorem three_issues_paged :
    ((secondOfA "count").logged threeOfA.service {}).1 = .ok (.record [("count", .int 3)]) ∧
      ∃ pages : List (List Value), pages.flatten.length = 3 ∧
        (∀ number page, pages[number]? = some page →
          (((secondOfA "list").page 2 number).logged threeOfA.service {}).1 =
            .ok (.list page)) ∧
        (((secondOfA "list").page 2 pages.length).logged threeOfA.service {}).1 =
          .ok (.list []) := by
  have accepted : (secondOfA "count").task {} = .ok (.count { filter := { project := "a" } }) := by
    decide +kernel
  have three : ((threeOfA.issues.filter (Store.matchesFilter { project := "a" })).filter
      (Criteria.admits { filter := { project := "a" } })).length = 3 := by decide +kernel
  have counted : ((secondOfA "count").logged threeOfA.service {}).1 =
      .ok (.record [("count", .int 3)]) := by
    rw [logged_of_count threeOfA accepted, three, Value.ofNat_of_lt (by decide)]
    rfl
  have isCount : (secondOfA "count").operation = "count" := rfl
  have isList : (secondOfA "list").operation = "list" := rfl
  obtain ⟨items, -, -, -, held⟩ :=
    (counted_as_listed threeOfA {} isCount isList rfl rfl).2 _ counted
  obtain ⟨number, paged⟩ := held (by decide)
  obtain ⟨pages, flat, -, each, last⟩ := paged 2 (by decide)
  refine ⟨counted, pages, ?_, each, last⟩
  simp only [Value.record.injEq, List.cons.injEq, Prod.mk.injEq, Value.int.injEq, true_and,
    and_true] at number
  rw [flat]
  exact_mod_cast number.symm

end Statement

end IssueQuery
