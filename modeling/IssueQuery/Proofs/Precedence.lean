import IssueQuery.Proofs.Channels
import IssueQuery.Proofs.Rearrangement

namespace IssueQuery

/-! Where the project and the board of a statement come from.

A statement may name them itself, by name or, for the project, by place; then the command line
may, and then the settings.  The first source that says anything counts, and a blank text or the
number zero says nothing.
-/

namespace Text

/-- A text with something in it and no blank at its ends. -/
structure Tight (text : String) : Prop where
  nonempty : text ≠ ""
  first : ∀ character ∈ text.toList.head?, isBlank character = false
  last : ∀ character ∈ text.toList.getLast?, isBlank character = false

/-- Whether a text is a tight one with blanks around it. -/
def Trims (text inner : String) : Prop :=
  Tight inner ∧ ∃ front back, Blank front ∧ Blank back ∧ text = front ++ inner ++ back

theorem trimChars_padded {front inner back : List Char}
    (frontBlank : ∀ character ∈ front, isBlank character = true)
    (backBlank : ∀ character ∈ back, isBlank character = true) (nonempty : inner ≠ [])
    (first : ∀ character ∈ inner.head?, isBlank character = false)
    (last : ∀ character ∈ inner.getLast?, isBlank character = false) :
    trimChars (front ++ inner ++ back) = inner := by
  have opened : (front ++ inner ++ back).dropWhile isBlank = inner ++ back := by
    rw [List.append_assoc]
    refine dropWhile_run frontBlank ?_
    rwa [List.head?_append_of_ne_nil _ nonempty]
  have closed : (inner ++ back).reverse.dropWhile isBlank = inner.reverse := by
    rw [List.reverse_append]
    have reversed : ∀ character ∈ back.reverse, isBlank character = true := fun character member =>
      backBlank character (List.mem_reverse.mp member)
    refine dropWhile_run reversed ?_
    rwa [List.head?_reverse]
  rw [trimChars, opened, closed, List.reverse_reverse]

/-- Behind the blanks in front there is nothing but what is kept and blanks behind it. -/
theorem exists_dropWhile_eq (characters : List Char) :
    ∃ back, (∀ character ∈ back, isBlank character = true) ∧
      characters.dropWhile isBlank = trimChars characters ++ back := by
  refine ⟨((characters.dropWhile isBlank).reverse.takeWhile isBlank).reverse, ?_, ?_⟩
  · intro character member
    exact List.mem_takeWhile_imp (List.mem_reverse.mp member)
  · rw [trimChars, ← List.reverse_append, List.takeWhile_append_dropWhile, List.reverse_reverse]

theorem tight_trim {text : String} (present : trim text ≠ "") : Tight (trim text) := by
  have inked (list : List Char) :
      ∀ character ∈ (list.dropWhile isBlank).head?, isBlank character = false := by
    intro character found
    have tested := List.head?_dropWhile_not isBlank list
    rw [Option.mem_def.mp found] at tested
    simpa using tested
  have nonempty : trimChars text.toList ≠ [] := by simpa [trim] using present
  obtain ⟨back, -, kept⟩ := exists_dropWhile_eq text.toList
  refine ⟨present, ?_, ?_⟩
  · have first := inked text.toList
    rw [kept, List.head?_append_of_ne_nil _ nonempty] at first
    rwa [trim, String.toList_ofList]
  · rw [trim, String.toList_ofList, trimChars, List.getLast?_reverse]
    exact inked _

/-- What is left of a text that is not blank is its only tight part with blanks around it. -/
theorem nonblank?_eq_some_iff {text inner : String} :
    nonblank? text = some inner ↔ Trims text inner := by
  constructor
  · intro present
    have same : trim text = inner := by
      rw [nonblank?] at present
      split at present
      · cases present
      · exact Option.some.inj present
    have nonempty : trim text ≠ "" := by
      intro empty
      rw [nonblank?, empty] at present
      cases present
    obtain ⟨back, backBlank, kept⟩ := exists_dropWhile_eq text.toList
    refine ⟨same ▸ tight_trim nonempty, String.ofList (text.toList.takeWhile isBlank),
      String.ofList back, ?_, ?_, ?_⟩
    · intro character member
      exact List.mem_takeWhile_imp (by simpa using member)
    · intro character member
      exact backBlank character (by simpa using member)
    · rw [← same]
      apply String.toList_injective
      simp only [trim, String.toList_append, String.toList_ofList]
      rw [List.append_assoc, ← kept, List.takeWhile_append_dropWhile]
  · intro trims
    obtain ⟨tight, front, back, frontBlank, backBlank, rfl⟩ := trims
    have nonempty : inner.toList ≠ [] := by simpa using tight.nonempty
    have trimmed : trim (front ++ inner ++ back) = inner := by
      rw [trim, String.toList_append, String.toList_append,
        trimChars_padded frontBlank backBlank nonempty tight.first tight.last, String.ofList_toList]
    rw [nonblank?, trimmed, if_neg tight.nonempty]

theorem nonblank?_of_tight {text : String} (tight : Tight text) : nonblank? text = some text :=
  nonblank?_eq_some_iff.mpr ⟨tight, "", "", by simp [Blank], by simp [Blank], by simp⟩

/-- Whether the first of some texts that is neither absent nor blank is another one with blanks
around it. -/
def FirstPresent (texts : List (Option String)) (inner : String) : Prop :=
  ∃ earlier text later, texts = earlier ++ some text :: later ∧
    (∀ absent ∈ earlier, ∀ other ∈ absent, Blank other) ∧ Trims text inner

theorem bind_nonblank?_eq_none_iff {text : Option String} :
    text.bind nonblank? = none ↔ ∀ other ∈ text, Blank other := by
  cases text <;> simp [nonblank?_eq_none_iff]

theorem firstPresent_iff {texts : List (Option String)} {inner : String} :
    FirstPresent texts inner ↔ texts.findSome? (·.bind nonblank?) = some inner := by
  rw [List.findSome?_eq_some_iff, FirstPresent]
  simp only [bind_nonblank?_eq_none_iff]
  constructor
  · intro found
    obtain ⟨earlier, text, later, split, absent, trims⟩ := found
    exact ⟨earlier, some text, later, split, nonblank?_eq_some_iff.mpr trims, absent⟩
  · intro found
    obtain ⟨earlier, text, later, split, present, absent⟩ := found
    obtain ⟨text, rfl, read⟩ := Option.bind_eq_some_iff.mp present
    exact ⟨earlier, text, later, split, absent, nonblank?_eq_some_iff.mp read⟩

end Text

namespace Plan

variable {First Second Result : Type}

/-- Whether a plan makes certain calls one after the other, whatever is answered. -/
inductive AsksInTurn {Result : Type} : Plan Result → List Call → Prop
  | done (result : Result) : AsksInTurn (.done result) []
  | ask {call : Call} {next : call.Answer → Plan Result} {calls : List Call}
      (following : ∀ answer, AsksInTurn (next answer) calls) :
      AsksInTurn (.ask call next) (call :: calls)

theorem AsksInTurn.bind {plan : Plan First} {next : First → Plan Second} {calls more : List Call}
    (asks : plan.AsksInTurn calls) (further : ∀ result, (next result).AsksInTurn more) :
    (plan.bind next).AsksInTurn (calls ++ more) := by
  induction asks with
  | done result => exact further result
  | ask following ih => exact .ask ih

theorem AsksInTurn.map {plan : Plan First} {calls : List Call} (transform : First → Second)
    (asks : plan.AsksInTurn calls) : (plan.map transform).AsksInTurn calls := by
  simpa [Plan.map] using asks.bind fun result => .done (transform result)

/-- A run breaks off at the first call that fails, and otherwise makes all calls. -/
theorem AsksInTurn.run {State : Type} {plan : Plan Result} {calls : List Call}
    (asks : plan.AsksInTurn calls) (answer : (call : Call) → StateM State call.Outcome)
    (before : Transcript Call.Outcome) (state : State) :
    ∃ asked : Transcript Call.Outcome,
      (Id.run (((plan.run (transcribed answer)).run before).run state)).1.2 = before ++ asked ∧
      asked.map (·.1) <+: calls ∧ (calls ≠ [] → asked ≠ []) ∧
      ∀ result, (Id.run (((plan.run (transcribed answer)).run before).run state)).1.1 =
        .ok result → asked.map (·.1) = calls := by
  -- What has been asked before and the state of the service both change with each call.
  induction asks generalizing before state with
  | done result => exact ⟨[], by simp [Plan.run], by simp, by simp, by simp⟩
  | @ask call next calls following ih =>
      cases answered : Id.run ((answer call).run state) with
      | mk outcome after =>
          cases outcome with
          | error cause =>
              rw [run_ask_of_error answered]
              exact ⟨[⟨call, .error cause⟩], rfl, by simp, by simp, by simp⟩
          | ok found =>
              obtain ⟨asked, recorded, inTurn, -, complete⟩ :=
                ih found (before ++ [⟨call, .ok found⟩]) after
              rw [run_ask_of_ok answered]
              refine ⟨⟨call, .ok found⟩ :: asked, ?_, ?_, by simp, fun result returned => ?_⟩
              · rw [recorded, List.append_assoc, List.singleton_append]
              · simpa using inTurn
              · simpa using complete result returned

end Plan

def Call.project? : Call → Option String
  | .issues filter _ => filter.project
  | .project key => some key
  | _ => none

namespace Task

variable (criteria : Criteria) (order : Option Order) (window : Window) (selection : Selection)
  (project : Option String) (board : Option UInt64)

theorem listPlan_asks : ∃ fields,
    (listPlan criteria order window selection).AsksInTurn [.issues criteria.filter fields] :=
  ⟨_, .ask fun _ => .done _⟩

theorem countPlan_asks : ∃ fields,
    (countPlan criteria).AsksInTurn [.issues criteria.filter fields] :=
  ⟨_, .ask fun _ => .done _⟩

/-- The calls of a summary on which every one succeeds. -/
def summaryCalls : List Call :=
  (project.toList.flatMap fun key =>
    [.project key, .issues (Filter.ofProject key) ["status", "issuetype"]]) ++
    board.toList.map .board

theorem summaryPlan_asks : (summaryPlan project board).AsksInTurn (summaryCalls project board) := by
  have ofProject : (projectPlan project).AsksInTurn (project.toList.flatMap fun key =>
      [.project key, .issues (Filter.ofProject key) ["status", "issuetype"]]) := by
    cases project with
    | none => exact .done _
    | some key => exact .ask fun found => .ask fun issues => .done _
  have ofBoard : (boardPlan board).AsksInTurn (board.toList.map .board) := by
    cases board with
    | none => exact .done _
    | some id => exact .ask fun found => .done _
  exact ofProject.bind fun entries => ofBoard.map _

variable {project board}

theorem summaryCalls_eq_nil_iff :
    summaryCalls project board = [] ↔ project = none ∧ board = none := by
  cases project <;> cases board <;> simp [summaryCalls]

theorem forall_project?_eq_none_iff {calls : List Call}
    (inTurn : calls <+: summaryCalls project board) (some : calls ≠ []) :
    (∀ call ∈ calls, call.project? = none) ↔ project = none := by
  cases project with
  | none =>
      refine iff_of_true (fun call member => ?_) rfl
      obtain ⟨id, -, rfl⟩ : ∃ id ∈ board.toList, Call.board id = call := by
        simpa [summaryCalls] using inTurn.subset member
      rfl
  | some key =>
      refine iff_of_false (fun absent => ?_) (by simp)
      rcases List.prefix_cons_iff.mp inTurn with none | ⟨rest, made, -⟩
      · exact some none
      · have first : (Call.project key).project? = none := absent _ (made ▸ List.mem_cons_self)
        cases first

end Task

namespace Scope

variable (first second : Scope)

theorem project?_or : (first.or second).project? = first.project?.or second.project? := by
  have tight (scope : Scope) : scope.project?.bind Text.nonblank? = scope.project? := by
    cases known : scope.project? with
    | none => rfl
    | some key =>
        obtain ⟨text, -, read⟩ := Option.bind_eq_some_iff.mp known
        exact Text.nonblank?_of_tight (Text.nonblank?_eq_some_iff.mp read).1
  rw [project?, Scope.or]
  cases known : first.project? with
  | none => simpa using tight second
  | some key => simpa [known] using tight first

theorem board?_or : (first.or second).board? = first.board?.or second.board? := by
  have positive (scope : Scope) : scope.board?.filter (0 < ·) = scope.board? := by
    simp [board?, Option.filter_filter]
  rw [board?, Scope.or]
  cases known : first.board? with
  | none => simpa using positive second
  | some id => simpa [known] using positive first

end Scope

namespace Statement

variable {line : CommandLine} {settings : Settings} {statement : Statement} {scope : Scope}
  {task : Task}

/-- Where the project of a statement may be named, in order of precedence. -/
def projectSources (line : CommandLine) (settings : Settings) (statement : Statement) :
    List (Option String) :=
  [(statement.given (some "project")).getLast?, (statement.given none).head?, line.project,
    settings.project]

theorem projectIn?_eq_findSome? :
    statement.projectIn? (line.scope.or settings.scope) =
      (statement.projectSources line settings).findSome? (·.bind Text.nonblank?) := by
  have first_or (source : Option String) (rest : List (Option String)) :
      (source :: rest).findSome? (·.bind Text.nonblank?) =
        (source.bind Text.nonblank?).or (rest.findSome? (·.bind Text.nonblank?)) := by
    rw [List.findSome?_cons]
    cases source.bind Text.nonblank? <;> rfl
  rw [projectSources]
  simp only [first_or, List.findSome?_nil, Option.or_none]
  rw [projectIn?, Scope.project?_or, project?, value?_eq_given, positional_eq_given,
    Option.or_assoc]
  rfl

theorem projectIn?_eq_some_iff {key : String} :
    statement.projectIn? (line.scope.or settings.scope) = some key ↔
      Text.FirstPresent (statement.projectSources line settings) key := by
  rw [projectIn?_eq_findSome?, Text.firstPresent_iff]

theorem projectIn?_eq_none_iff :
    statement.projectIn? (line.scope.or settings.scope) = none ↔
      ∀ source ∈ statement.projectSources line settings, ∀ text ∈ source, Text.Blank text := by
  simp only [projectIn?_eq_findSome?, List.findSome?_eq_none_iff, Text.bind_nonblank?_eq_none_iff]

/-- Whether a board is the one that a statement names or else that of the command line, or else
that of the settings. -/
def BoardFrom (line : CommandLine) (settings : Settings) (statement : Statement)
    (board : Option UInt64) : Prop :=
  match (statement.given (some "board")).getLast? with
  | some text => ∃ id, board = some id ∧ 0 < id ∧ Text.WritesNumber text id.toNat
  | none => board = (line.board.filter (0 < ·)).or (settings.board.filter (0 < ·))

theorem boardFrom_of_boardIn? {board : Option UInt64}
    (chosen : statement.boardIn? (line.scope.or settings.scope) = .ok board) :
    statement.BoardFrom line settings board := by
  rw [boardIn?, value?_eq_given, Scope.board?_or] at chosen
  rw [BoardFrom]
  cases given : (statement.given (some "board")).getLast? with
  | none =>
      rw [given] at chosen
      cases chosen
      rfl
  | some text =>
      rw [given] at chosen
      simp only at chosen ⊢
      split at chosen
      · rename_i id read
        cases chosen
        obtain ⟨written, positive⟩ := Option.filter_eq_some_iff.mp read
        exact ⟨id, rfl, by simpa using positive, Text.word?_eq_some_iff.mp written⟩
      · cases chosen

def callsMade (service : ChangingService) (scope : Scope) (statement : Statement) : List Call :=
  (statement.attempt service scope).2.map (·.1)

/-- An accepted statement makes its calls in turn, and all of them if it succeeds. -/
theorem callsMade_of_accepted (service : ChangingService) {calls : List Call}
    (accepted : statement.task scope = .ok task) (asks : task.plan.AsksInTurn calls) :
    statement.callsMade service scope <+: calls ∧
      (calls ≠ [] → statement.callsMade service scope ≠ []) ∧
      ∀ value, (statement.attempt service scope).1 = .ok value →
        statement.callsMade service scope = calls := by
  obtain ⟨made, recorded, inTurn, begun, complete⟩ :=
    asks.run service.answer [] service.start
  rw [List.nil_append] at recorded
  simp only [callsMade, attempt, execute_accepted accepted, StateT.run_map, Id.run_map, recorded]
  refine ⟨inTurn, fun some => by simpa using begun some, fun value returned => ?_⟩
  cases outcome : (Id.run (((task.plan.run (transcribed service.answer)).run []).run
      service.start)).1.1 with
  | error cause =>
      rw [outcome] at returned
      cases returned
  | ok result => exact complete result outcome

theorem callsMade_of_single (service : ChangingService) {call : Call}
    (accepted : statement.task scope = .ok task) (asks : task.plan.AsksInTurn [call]) :
    statement.callsMade service scope = [call] := by
  obtain ⟨inTurn, begun, -⟩ := callsMade_of_accepted service accepted asks
  rcases List.prefix_cons_iff.mp inTurn with none | ⟨rest, made, more⟩
  · exact absurd none (begun (by simp))
  · rw [made, List.prefix_nil.mp more]

theorem callsMade_of_issues (service : ChangingService)
    (accepted : statement.task (line.scope.or settings.scope) = .ok task)
    (called : statement.operation = "list" ∨ statement.operation = "count") :
    ∃ filter fields key,
      statement.callsMade service (line.scope.or settings.scope) = [.issues filter fields] ∧
        filter.project = some key ∧
        Text.FirstPresent (statement.projectSources line settings) key := by
  obtain ⟨criteria, fields, resolved, once⟩ : ∃ criteria fields,
      Criteria.ofStatement (line.scope.or settings.scope) statement = .ok criteria ∧
        task.plan.AsksInTurn [.issues criteria.filter fields] := by
    rcases called with isList | isCount
    · obtain ⟨criteria, order, window, selection, asks, -, rfl⟩ := (task_of_list isList).mp accepted
      obtain ⟨fields, once⟩ := Task.listPlan_asks criteria order window selection
      exact ⟨criteria, fields, asks.resolved, once⟩
    · obtain ⟨criteria, _, _, _, asks, -, rfl⟩ := (task_of_count isCount).mp accepted
      obtain ⟨fields, once⟩ := Task.countPlan_asks criteria
      exact ⟨criteria, fields, asks.resolved, once⟩
  obtain ⟨-, key, found, rfl⟩ := Criteria.ofStatement_eq_ok_iff.mp resolved
  exact ⟨_, fields, key, callsMade_of_single service accepted once, rfl,
    projectIn?_eq_some_iff.mp found⟩

theorem callsMade_of_summary (service : ChangingService)
    (accepted : statement.task (line.scope.or settings.scope) = .ok task)
    (called : statement.operation = "summary") :
    ∃ project board,
      (∀ key, project = some key ↔
        Text.FirstPresent (statement.projectSources line settings) key) ∧
      statement.BoardFrom line settings board ∧
      statement.callsMade service (line.scope.or settings.scope) ≠ [] ∧
      statement.callsMade service (line.scope.or settings.scope) <+:
        Task.summaryCalls project board ∧
      (∀ value, (statement.attempt service (line.scope.or settings.scope)).1 = .ok value →
        statement.callsMade service (line.scope.or settings.scope) =
          Task.summaryCalls project board) ∧
      ((∀ call ∈ statement.callsMade service (line.scope.or settings.scope), call.project? = none) ↔
        ∀ source ∈ statement.projectSources line settings, ∀ text ∈ source, Text.Blank text) := by
  obtain ⟨operation, selection, known, -, accepts⟩ := task_eq_ok_iff.mp accepted
  rw [called] at known
  cases known
  cases accepts with
  | summary known atMostOne chosen placed =>
      rename_i board
      obtain ⟨inTurn, begun, complete⟩ := callsMade_of_accepted service accepted
        (Task.summaryPlan_asks _ board)
      have some : statement.callsMade service (line.scope.or settings.scope) ≠ [] :=
        begun fun empty => placed (Task.summaryCalls_eq_nil_iff.mp empty)
      refine ⟨_, board, fun key => projectIn?_eq_some_iff, boardFrom_of_boardIn? chosen, some,
        inTurn, complete, ?_⟩
      rw [Task.forall_project?_eq_none_iff inTurn some, projectIn?_eq_none_iff]

end Statement

section Commands

variable {State : Type} {host : Host (StateM State)} {environment : Environment}
  {line : CommandLine} {start : State}

theorem observed_bind {First Second : Type} {action : StateM State First}
    {next : First → ExceptT Halt (StateT Written (StateM State)) Second} {result : First}
    {before after : State} (ran : Id.run (action.run before) = (result, after)) :
    observed ((liftM action : ExceptT Halt (StateT Written (StateM State)) First) >>= next)
        before =
      observed (next result) after := by
  change observed (next (Id.run (action.run before)).1) (Id.run (action.run before)).2 = _
  rw [ran]

/-- Whether a query command has read its settings and is about to ask a service. -/
inductive CommandLine.Reaches (host : Host (StateM State)) (environment : Environment)
    (line : CommandLine) (start : State) (query : Query) (settings : Settings) (address : String)
    (client : Client) (connected : State) : Prop
  | reached {text path : String} {loaded : State} (given : line.command = .query text)
      (read : Query.parse text = .ok query) (needed : query.needsService = true)
      (found : line.settingsFile environment = .ok path)
      (settled : Id.run ((Settings.load host.disk path).run start) = (.ok settings, loaded))
      (reached : Id.run ((CommandLine.connect host environment settings).run loaded) =
        (.ok (address, client), connected)) :
      Reaches host environment line start query settings address client connected

def CommandLine.answerQuery (host : Host (StateM State)) (line : CommandLine) (address : String)
    (client : Client) (scope : Scope) (query : Query) :
    ExceptT Halt (StateT Written (StateM State)) (Except Failure Unit) := do
  let answer := client.answer host.arithmetic host.transport host.pages
  match ← ((query.execute answer scope).run : StateM State _) with
  | .error halt => throw halt
  | .ok (.error error) =>
      (line.explain Written.console address error : StateT Written (StateM State) Unit)
      return .error (.query error)
  | .ok (.ok values) =>
      (Written.console.print (renderResults values) : StateT Written (StateM State) Unit)
      return .ok ()

/-- What the command line leaves open is completed by the settings. -/
theorem CommandLine.carryOut_reached {query : Query} {settings : Settings} {address : String}
    {client : Client} {connected : State}
    (reaches : line.Reaches host environment start query settings address client connected) :
    observed (carryOut host Written.console environment line) start =
      observed (line.answerQuery host address client (line.scope.or settings.scope) query)
        connected := by
  obtain ⟨given, read, needed, found, settled, reached⟩ := reaches
  simp only [carryOut, given, runQuery, read, if_pos needed, runRemote, found]
  rw [observed_bind settled]
  simp only
  rw [observed_bind reached]
  rfl

end Commands

namespace Statement

def emptyFlags : CommandLine where
  command := .query "summary()"
  project := some " "
  board := some 0
  settingsPath := some "settings"

def paddedSettings : Settings where
  address := some "http://a"
  deployment := some .server
  project := some " A "
  board := some 7

/-- A machine whose only file holds the padded settings. -/
def paddedHost : Host (StateM Unit) where
  disk := {
    read := fun _ => pure (.ok paddedSettings.toText?)
    createDirectory := fun _ => pure (.ok ())
    write := fun _ _ => pure (.ok ()) }
  transport := {
    exchange := fun _ => pure (.unreachable "no network")
    pause := fun _ => pure () }
  arithmetic := .checked
  pages := 1

def withToken : Environment := { token := some "t", timestamp := "" }

def clientOfA : Client := ⟨"http://a", "Bearer t", .server, 30⟩

def summaryOfScope : Statement := ⟨"summary", [], none⟩

def blankList : Statement := ⟨"list", [⟨none, " "⟩], none⟩

end Statement

end IssueQuery
