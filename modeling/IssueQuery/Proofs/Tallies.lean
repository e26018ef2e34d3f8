import IssueQuery.Proofs.Counting
import IssueQuery.Proofs.Results
import Mathlib.Algebra.BigOperators.Group.List.Lemmas
import Mathlib.Algebra.GroupWithZero.Nat

namespace IssueQuery

/-! Summaries of projects.

A tally holds the distinct names in ascending order, each with the number of its occurrences
(`perm_ofNames`).  What a summary shows is told from that, and not from the way in which the
tally is kept.
-/

namespace Tally

variable {names : List String} {name : String}

theorem ofNames_concat (names : List String) (name : String) :
    ofNames (names ++ [name]) = (ofNames names).bump name := by
  rw [ofNames, List.foldl_append]
  rfl

theorem ascending_ofNames (names : List String) : Json.Ascending (ofNames names) := by
  induction names using List.reverseRecOn with
  | nil => exact .nil
  | append_singleton names name ih =>
      rw [ofNames_concat]
      exact ih.insertSorted

theorem lookup_ofNames (names : List String) (name : String) :
    (ofNames names).lookup name = if name ∈ names then some (names.count name) else none := by
  induction names using List.reverseRecOn generalizing name with
  | nil => rfl
  | append_singleton names last ih =>
      rw [ofNames_concat, bump, Json.lookup_insertSorted, ih, ih]
      by_cases isLast : name = last
      · subst name
        by_cases seen : last ∈ names
        · simp [seen]
        · simp [seen, List.count_eq_zero_of_not_mem seen]
      · have other : last ≠ name := Ne.symm isLast
        simp [isLast, other]

theorem mem_ofNames_iff {count : Nat} :
    (name, count) ∈ ofNames names ↔ name ∈ names ∧ count = names.count name := by
  rw [Json.mem_iff_lookup (ascending_ofNames names).nodup, lookup_ofNames]
  by_cases seen : name ∈ names <;> simp [seen, eq_comm]

theorem perm_ofNames (names : List String) :
    (ofNames names).Perm (names.dedup.map fun name => (name, names.count name)) := by
  have distinct : (ofNames names).Nodup := .of_map _ (ascending_ofNames names).nodup
  have distinctNames : (names.dedup.map fun name => (name, names.count name)).Nodup :=
    names.nodup_dedup.map fun _ _ same => congrArg Prod.fst same
  refine (List.perm_ext_iff_of_nodup distinct distinctNames).mpr fun entry => ?_
  obtain ⟨name, count⟩ := entry
  rw [mem_ofNames_iff, List.mem_map]
  constructor
  · rintro ⟨member, rfl⟩
    exact ⟨name, List.mem_dedup.mpr member, rfl⟩
  · rintro ⟨other, member, same⟩
    cases same
    exact ⟨List.mem_dedup.mp member, rfl⟩

/-- The numbers of the names of a kind put together. -/
def total (tally : Tally) (kind : String → Bool) : Nat :=
  ((tally.filter fun entry => kind entry.1).map (·.2)).sum

theorem total_ofNames (names : List String) (kind : String → Bool) :
    (ofNames names).total kind = names.countP kind := by
  have ordered := ((perm_ofNames names).filter fun entry => kind entry.1).map (·.2)
  rw [total, ordered.sum_eq, List.filter_map, List.map_map]
  exact List.sum_map_count_dedup_filter_eq_countP kind names

theorem entries_toRecord (names : List String) :
    (ofNames names).toRecord.entries =
      (ofNames names).map fun entry => (entry.1, Value.ofNat entry.2) := by
  refine Record.entries_ofList ?_
  rw [List.map_map]
  exact (ascending_ofNames names).nodup

/-- Whether a tally tells how many of some issues carry each name that any of them carries,
in ascending order of the bytes of the names. -/
structure Counts (tally : Tally) (issues : List Issue) (name? : Issue → Option String) :
    Prop where
  ascending : tally.Pairwise fun first second => Text.bytes first.1 < Text.bytes second.1
  mem_iff : ∀ name count, (name, count) ∈ tally ↔
    (∃ issue ∈ issues, name? issue = some name) ∧
      count = (issues.filter fun issue => name? issue = some name).length
  rest : (tally.map (·.2)).sum + (issues.filter fun issue => name? issue = none).length =
    issues.length

theorem total_all (tally : Tally) : tally.total (fun _ => true) = (tally.map (·.2)).sum := by
  rw [total, List.filter_true]

theorem total_ofIssues (issues : List Issue) (name? : Issue → Option String)
    (kind : String → Bool) :
    (ofNames (issues.filterMap name?)).total kind =
      (issues.filter fun issue => (name? issue).any kind).length := by
  rw [total_ofNames, List.countP_filterMap, List.countP_eq_length_filter]
  congr 2
  funext issue
  cases name? issue <;> rfl

theorem counts_ofIssues (issues : List Issue) (name? : Issue → Option String) :
    (ofNames (issues.filterMap name?)).Counts issues name? where
  ascending := (ascending_ofNames _).imp Text.bytes_lt_bytes_iff.mpr
  mem_iff name count := by
    simp only [mem_ofNames_iff, List.mem_filterMap, List.count_filterMap,
      List.countP_eq_length_filter, beq_eq_decide]
  rest := by
    have unnamed : (issues.filter fun issue => name? issue = none) =
        issues.filter fun issue => !(name? issue).any fun _ => true := by
      refine List.filter_congr fun issue _ => ?_
      cases name? issue <;> simp
    rw [← total_all, total_ofIssues, unnamed]
    exact (List.length_eq_length_filter_add _).symm

end Tally

/-- The issues of a project, as inserted.  The case of its key does not matter. -/
def Store.issuesOf (store : Store) (key : String) : List Issue :=
  store.issues.filter fun issue => decide (SameName issue.projectKey (some key))

theorem Store.issuesOf_eq (store : Store) (key : String) :
    store.issuesOf key =
      store.issues.filter fun issue => matchesName issue.projectKey (some key) := by
  refine List.filter_congr fun issue _ => ?_
  rw [Bool.eq_iff_iff, decide_eq_true_iff, matchesName_iff]

namespace Statement

variable {scope : Scope} {key : String}

def summaryOf (key : String) : Statement := ⟨"summary", [⟨some "project", key⟩], none⟩

/-- The count of the issues of a project of which one name is given. -/
def countOf (key argument value : String) : Statement :=
  ⟨"count", [⟨some "project", key⟩, ⟨some argument, value⟩], none⟩

theorem projectIn?_of_given {statement : Statement}
    (given : statement.value? "project" = some key) (trimmed : Text.trim key = key)
    (nonempty : key ≠ "") : statement.projectIn? scope = some key := by
  simp [projectIn?, project?, given, Text.nonblank?, trimmed, nonempty]

theorem task_summaryOf (trimmed : Text.trim key = key) (nonempty : key ≠ "") :
    (summaryOf key).task scope = .ok (.summary (some key) scope.board?) := by
  have placed : (summaryOf key).projectIn? scope = some key :=
    projectIn?_of_given rfl trimmed nonempty
  refine task_eq_ok_iff.mpr ⟨.summary, _, rfl, rfl, ?_⟩
  rw [← placed]
  refine .summary ?_ ?_ rfl (by simp [placed])
  · simp [summaryOf, named]
  · simp [summaryOf, positional]

theorem logged_summaryOf (store : Store) (trimmed : Text.trim key = key) (nonempty : key ≠ "")
    (registered : ∃ project ∈ store.projects, project.key = key)
    (boardKnown : ∀ id ∈ scope.board?, ∃ board ∈ store.boards, board.id = id) :
    ∃ project ofBoard, ((summaryOf key).logged store.service scope).1 =
      .ok (.ofRecord (.ofList
        (Handler.projectEntries project (store.issuesOf key) ++ ofBoard))) ∧
      (ofBoard = [] ∨ ∃ board, ofBoard = Handler.boardEntries board) := by
  obtain ⟨project, found⟩ : ∃ project, store.projects.find? (·.key = key) = some project := by
    obtain ⟨project, member, same⟩ := registered
    exact Option.isSome_iff_exists.mp (List.find?_isSome.mpr ⟨project, member, by simpa using same⟩)
  have accepted : (summaryOf key).task scope = .ok (.summary (some key) scope.board?) :=
    task_summaryOf trimmed nonempty
  have fetched : store.issues.filter (Store.matchesFilter (Filter.ofProject key)) =
      store.issuesOf key := by
    rw [Store.issuesOf_eq]
    refine List.filter_congr fun issue _ => ?_
    simp [Store.matchesFilter, Filter.ofProject, Store.matchesName]
  cases given : scope.board? with
  | none =>
      refine ⟨project, [], ?_, .inl rfl⟩
      rw [given] at accepted
      simp [logged, execute_accepted accepted, Task.plan, Task.summaryPlan, Task.projectPlan,
        Task.boardPlan, Plan.bind, Plan.map, Plan.run, Service.logged, Store.service, found,
        fetched, Except.mapError]
  | some id =>
      obtain ⟨board, boardFound⟩ : ∃ board, store.boards.find? (·.id = id) = some board := by
        obtain ⟨board, member, same⟩ := boardKnown id given
        exact Option.isSome_iff_exists.mp (List.find?_isSome.mpr ⟨board, member, by simpa using same⟩)
      refine ⟨project, Handler.boardEntries board, ?_, .inr ⟨board, rfl⟩⟩
      rw [given] at accepted
      simp [logged, execute_accepted accepted, Task.plan, Task.summaryPlan, Task.projectPlan,
        Task.boardPlan, Plan.bind, Plan.map, Plan.run, Service.logged, Store.service, found,
        fetched, boardFound, Except.mapError]

theorem get?_summary (project : Project) (issues : List Issue) {ofBoard : List (String × Value)}
    (boardEntries : ofBoard = [] ∨ ∃ board, ofBoard = Handler.boardEntries board) :
    let record := Record.ofList (Handler.projectEntries project issues ++ ofBoard)
    record.get? "total_issues" = some (.ofNat issues.length) ∧
      record.get? "by_status" =
        some (.ofRecord (Tally.ofNames (issues.filterMap Issue.statusName)).toRecord) ∧
      record.get? "by_type" =
        some (.ofRecord (Tally.ofNames (issues.filterMap Issue.typeName)).toRecord) := by
  rcases boardEntries with rfl | ⟨board, rfl⟩ <;> exact ⟨rfl, rfl, rfl⟩

/-- Of the issues of a project, those that a count with a further condition admits. -/
theorem logged_countOf (store : Store) {argument value : String} {filter : Filter}
    (accepted : (countOf key argument value).task scope = .ok (.count { filter := filter }))
    (ofProject : filter.project = some key) :
    ((countOf key argument value).logged store.service scope).1 =
      .ok (.record [("count", .ofNat ((store.issuesOf key).filter fun issue =>
        Store.matchesName issue.typeName filter.type &&
          Store.matchesName issue.statusName filter.status).length)]) := by
  have same : (store.issues.filter (Store.matchesFilter filter)).filter
      (Criteria.admits { filter := filter }) =
        (store.issuesOf key).filter fun issue =>
          Store.matchesName issue.typeName filter.type &&
            Store.matchesName issue.statusName filter.status := by
    rw [store.issuesOf_eq, List.filter_filter, List.filter_filter]
    refine List.filter_congr fun issue _ => ?_
    simp only [Criteria.admits, Store.matchesFilter, ofProject, Store.matchesName]
    rw [Bool.true_and, Bool.true_and, Bool.and_assoc, Bool.and_comm]
  rw [logged_of_count store accepted, same]
  rfl

theorem task_countOf (trimmed : Text.trim key = key) (nonempty : key ≠ "") (value : String) :
    (countOf key "status" value).task scope =
        .ok (.count { filter := { project := key, status := value } }) ∧
      (countOf key "type" value).task scope =
        .ok (.count { filter := { project := key, type := value } }) := by
  have known {argument : String} (isListArgument : Statement.isListArgument argument = true) :
      ∀ named ∈ (countOf key argument value).named, Statement.isListArgument named.1 :=
    List.forall_mem_cons.mpr ⟨(by decide : Statement.isListArgument "project" = true),
      List.forall_mem_singleton.mpr isListArgument⟩
  have alone (argument : String) : (countOf key argument value).positional.length ≤ 1 :=
    Nat.zero_le 1
  constructor
  · refine (task_of_count rfl).mpr ⟨_, none, ⟨0, none⟩, _, ⟨known (by decide), ?_, rfl, rfl⟩,
      rfl, rfl⟩
    exact Criteria.ofStatement_eq_ok_iff.mpr ⟨alone "status", key,
      projectIn?_of_given rfl trimmed nonempty, rfl⟩
  · refine (task_of_count rfl).mpr ⟨_, none, ⟨0, none⟩, _, ⟨known (by decide), ?_, rfl, rfl⟩,
      rfl, rfl⟩
    exact Criteria.ofStatement_eq_ok_iff.mpr ⟨alone "type", key,
      projectIn?_of_given rfl trimmed nonempty, rfl⟩

/-- A summary of a registered project tells how many issues the project has, and how many of
these carry each status and each name of a type.  An empty name of a type counts as none.
The count of the issues with a status or a type is the sum over the names that are the same
but for the case of letters. -/
theorem summary_tallies_issues (store : Store) (scope : Scope) {key : String}
    (trimmed : Text.trim key = key) (nonempty : key ≠ "")
    (registered : ∃ project ∈ store.projects, project.key = key)
    (boardKnown : ∀ id ∈ scope.board?, ∃ board ∈ store.boards, board.id = id) :
    ∃ (record : Record) (byStatus byType : Tally),
      ((summaryOf key).logged store.service scope).1 = .ok (.ofRecord record) ∧
      record.get? "total_issues" = some (.ofNat (store.issuesOf key).length) ∧
      record.get? "by_status" =
        some (.record (byStatus.map fun entry => (entry.1, .ofNat entry.2))) ∧
      record.get? "by_type" =
        some (.record (byType.map fun entry => (entry.1, .ofNat entry.2))) ∧
      byStatus.Counts (store.issuesOf key) (fun issue => issue.details.status.map (·.name)) ∧
      byType.Counts (store.issuesOf key)
        (fun issue => (issue.details.type.map (·.name)).filter (· ≠ "")) ∧
      ∀ value,
        ((countOf key "status" value).logged store.service scope).1 =
          .ok (.record [("count", .ofNat (byStatus.total (Text.sameIgnoringCase · value)))]) ∧
        ((countOf key "type" value).logged store.service scope).1 =
          .ok (.record [("count", .ofNat (byType.total (Text.sameIgnoringCase · value)))]) := by
  obtain ⟨project, ofBoard, returned, boardEntries⟩ :=
    logged_summaryOf store trimmed nonempty registered boardKnown
  obtain ⟨whole, byStatus, byType⟩ := get?_summary project (store.issuesOf key) boardEntries
  refine ⟨_, _, _, returned, whole, byStatus.trans ?_, byType.trans ?_,
    Tally.counts_ofIssues _ _, Tally.counts_ofIssues _ _, fun value => ?_⟩
  · rw [Value.ofRecord, Tally.entries_toRecord]
    rfl
  · rw [Value.ofRecord, Tally.entries_toRecord]
    rfl
  · obtain ⟨statusAccepted, typeAccepted⟩ :
        (countOf key "status" value).task scope = .ok (.count _) ∧
          (countOf key "type" value).task scope = .ok (.count _) :=
      task_countOf trimmed nonempty value
    rw [Tally.total_ofIssues, Tally.total_ofIssues, logged_countOf store statusAccepted rfl,
      logged_countOf store typeAccepted rfl]
    simp only [Store.matchesName, Bool.true_and, Bool.and_true]
    exact ⟨rfl, rfl⟩

/-- Two statuses differ only in the case of a letter, one issue has none, and the last one is
of another project. -/
def mixedOfA : Store where
  issues :=
    [issueOfA "1" "" "Open", issueOfA "2" "" "open", issueOfA "3" "" "Open",
      { details := { project := some { key := "a" }, type := some {} } },
      { details := { project := some { key := "AB" }, status := some { name := "Open" } } }]
  projects := [{ key := "A" }]
  boards := [{ id := 7 }]

theorem mixed_issues_tallied :
    ∃ (record : Record) (byStatus : Tally),
      ((summaryOf "A").logged mixedOfA.service { board := some 7 }).1 = .ok (.ofRecord record) ∧
      record.get? "total_issues" = some (.int 4) ∧
      ("Open", 2) ∈ byStatus ∧ ("open", 1) ∈ byStatus ∧ (byStatus.map (·.2)).sum + 1 = 4 ∧
      ((countOf "A" "status" "OPEN").logged mixedOfA.service { board := some 7 }).1 =
        .ok (.record [("count", .ofNat (byStatus.total (Text.sameIgnoringCase · "OPEN")))]) := by
  obtain ⟨record, byStatus, byType, returned, number, -, -, counts, -, counted⟩ :=
    summary_tallies_issues mixedOfA { board := some 7 } (by decide) (by decide)
      ⟨_, List.mem_singleton_self _, rfl⟩
      (fun id given => ⟨_, List.mem_singleton_self _, Option.some.inj given⟩)
  refine ⟨record, byStatus, returned, number, ?_, ?_, counts.rest, (counted "OPEN").1⟩
  · exact (counts.mem_iff _ _).mpr ⟨by decide, by decide⟩
  · exact (counts.mem_iff _ _).mpr ⟨by decide, by decide⟩

end Statement

end IssueQuery
