import IssueQuery.Proofs.Listing
import IssueQuery.Proofs.Numerals
import IssueQuery.Proofs.Refusals
import Mathlib.Data.List.TakeWhile

namespace IssueQuery

/-! The rules for the arguments of each operation.

A statement has a task exactly if its arguments keep the rules of its operation.  The rules
are told here from the arguments as they were given, without the readers that check them.
-/

namespace Text

/-- Whether a text consists of blanks only, of which there may be none. -/
def Blank (text : String) : Prop := ∀ character ∈ text.toList, isBlank character = true

theorem trimChars_eq_nil_iff {characters : List Char} :
    trimChars characters = [] ↔ ∀ character ∈ characters, isBlank character = true := by
  rw [trimChars, List.reverse_eq_nil_iff, List.dropWhile_eq_nil_iff]
  simp only [List.mem_reverse]
  refine ⟨fun blank => ?_, fun blank character member =>
    blank character ((List.dropWhile_sublist isBlank).subset member)⟩
  rw [← List.dropWhile_eq_nil_iff]
  by_contra present
  obtain ⟨first, rest, split⟩ := List.exists_cons_of_ne_nil present
  have inked : isBlank first = false := by
    simpa [split] using List.head?_dropWhile_not isBlank characters
  rw [blank first (split ▸ List.mem_cons_self)] at inked
  cases inked

theorem nonblank?_eq_none_iff {text : String} : nonblank? text = none ↔ Blank text := by
  have empty : trim text = "" ↔ trimChars text.toList = [] := by
    rw [trim, String.ofList_eq_empty_iff]
  simp only [nonblank?, ite_eq_left_iff, reduceCtorEq, imp_false, not_not, empty,
    trimChars_eq_nil_iff]
  rfl

/-- Whether a text is a decimal number of at most 64 bits. -/
def WritesWord (text : String) : Prop := ∃ number < 2 ^ 64, WritesNumber text number

theorem writesWord_iff {text : String} : WritesWord text ↔ ∃ word, word? text = some word := by
  constructor
  · rintro ⟨number, bounded, written⟩
    have same : number.toUInt64.toNat = number := UInt64.toNat_ofNat_of_lt' bounded
    exact ⟨number.toUInt64, word?_eq_some_iff.mpr (same.symm ▸ written)⟩
  · rintro ⟨word, read⟩
    exact ⟨word.toNat, word.toNat_lt, word?_eq_some_iff.mp read⟩

end Text

namespace Statement

variable {scope : Scope} {statement : Statement} {name value : String}

/-- Whether a value is the last that is given for a name. -/
def Gives (statement : Statement) (name value : String) : Prop :=
  ∃ earlier later, statement.named = earlier ++ (name, value) :: later ∧
    ∀ argument ∈ later, argument.1 ≠ name

theorem gives_iff : statement.Gives name value ↔ statement.value? name = some value := by
  rw [value?, List.lookup_eq_some_iff]
  constructor
  · rintro ⟨earlier, later, given, last⟩
    refine ⟨later.reverse, earlier.reverse, by simp [given], fun argument member => ?_⟩
    simpa using (last argument (List.mem_reverse.mp member)).symm
  · rintro ⟨later, earlier, given, last⟩
    refine ⟨earlier.reverse, later.reverse, ?_, fun argument member => ?_⟩
    · rw [← List.reverse_inj, given]
      simp
    · have different := last argument (List.mem_reverse.mp member)
      simpa using Ne.symm (bne_iff_ne.mp different)

/-- Whether a statement or its scope names a project. -/
def HasProject (scope : Scope) (statement : Statement) : Prop :=
  (∃ text, statement.Gives "project" text ∧ ¬ Text.Blank text) ∨
    (∃ text ∈ statement.positional, ¬ Text.Blank text) ∨
    ∃ text ∈ scope.project, ¬ Text.Blank text

theorem hasProject_iff (atMostOne : statement.positional.length ≤ 1) :
    statement.HasProject scope ↔ statement.projectIn? scope ≠ none := by
  have nonblank (text : Option String) :
      ¬ text.bind Text.nonblank? = none ↔ ∃ present ∈ text, ¬ Text.Blank present := by
    cases text with
    | none => simp
    | some text => simp [Text.nonblank?_eq_none_iff]
  have only : ∀ text, text ∈ statement.positional ↔ text ∈ statement.positional.head? := by
    intro text
    match split : statement.positional, atMostOne with
    | [], _ => simp
    | [first], _ => simp [eq_comm]
  rw [projectIn?, project?, Scope.project?, ne_eq, Option.or_eq_none_iff, Option.or_eq_none_iff,
    not_and_or, not_and_or, nonblank, nonblank, nonblank, or_assoc]
  simp only [HasProject, gives_iff, only]
  rfl

end Statement

namespace Order

/-- The names of the fields by which issues can be sorted. -/
def sortableNames : List String :=
  ["key", "summary", "status", "assignee", "type", "priority", "created", "updated"]

def IsOrderName (name : String) : Prop := "sort_".toList <+: name.toList

theorem isOrderName_iff {name : String} :
    IsOrderName name ↔ (fieldName? name).isSome = true := by
  rw [← not_iff_not, Bool.not_eq_true, Option.isSome_eq_false_iff, Option.isNone_iff_eq_none,
    fieldName?_eq_none_iff, IsOrderName]

/-- Whether an argument asks for an order by a field. -/
def Asks (argument : String × String) : Prop :=
  (∃ field ∈ sortableNames, argument.1 = "sort_" ++ field) ∧
    Text.lower argument.2 ∈ ["asc", "desc"]

/-- At most one argument is for an order, and it asks for one. -/
structure Rules (arguments : List (String × String)) : Prop where
  atMostOne : arguments.Pairwise fun first second =>
    ¬ (IsOrderName first.1 ∧ IsOrderName second.1)
  asks : ∀ argument ∈ arguments, IsOrderName argument.1 → Asks argument

theorem sortable_iff {name : String} :
    ((Field.ofName? name).filter Field.isSortable).isSome = true ↔ name ∈ sortableNames := by
  constructor
  · intro found
    obtain ⟨field, sortable⟩ := Option.isSome_iff_exists.mp found
    obtain ⟨known, isSortable⟩ := Option.filter_eq_some_iff.mp sortable
    have named : ∀ field : Field, field.isSortable = true → field.name ∈ sortableNames := by
      intro field
      cases field <;> decide
    exact Field.name_of_ofName? known ▸ named field isSortable
  · revert name
    decide

theorem directionOf?_isSome_iff {value : String} :
    (directionOf? value).isSome = true ↔ Text.lower value ∈ ["asc", "desc"] := by
  unfold directionOf?
  split <;> simp_all

/-- An argument of the name `sort_` and some field. -/
theorem exists_ofArgument_iff {argument name value : String}
    (named : fieldName? argument = some name) :
    (∃ order, ofArgument argument name value = .ok order) ↔ Asks (argument, value) := by
  have same (field : String) : argument = "sort_" ++ field ↔ name = field := by
    rw [eq_of_fieldName? named, ← String.toList_inj, String.toList_append, String.toList_append,
      List.append_cancel_left_eq, String.toList_inj]
  simp only [Asks, same, exists_eq_right', ← sortable_iff, ← directionOf?_isSome_iff, ofArgument]
  cases (Field.ofName? name).filter Field.isSortable with
  | none => simp
  | some field => cases directionOf? value <;> simp

theorem exists_ofArguments_cons_iff {argument : String × String} {name : String}
    {rest : List (String × String)} (named : fieldName? argument.1 = some name) :
    (∃ order, ofArguments (argument :: rest) = .ok order) ↔
      (∃ order, ofArgument argument.1 name argument.2 = .ok order) ∧
        ∀ other ∈ rest, ¬ IsOrderName other.1 := by
  have alone : (rest.find? fun other => (fieldName? other.1).isSome) = none ↔
      ∀ other ∈ rest, ¬ IsOrderName other.1 := by
    simp [List.find?_eq_none, isOrderName_iff]
  simp only [ofArguments, named, bind_eq_ok_iff, ← alone]
  cases rest.find? fun other => (fieldName? other.1).isSome with
  | none => simp [pure, Except.pure]
  | some second => simp [throw, throwThe, MonadExceptOf.throw]

theorem exists_ofArguments_iff {arguments : List (String × String)} :
    (∃ order, ofArguments arguments = .ok order) ↔ Rules arguments := by
  induction arguments with
  | nil => exact ⟨fun _ => ⟨.nil, by simp⟩, fun _ => ⟨none, rfl⟩⟩
  | cons argument rest ih =>
      cases named : fieldName? argument.1 with
      | none =>
          have other : ¬ IsOrderName argument.1 := by simp [isOrderName_iff, named]
          simp only [ofArguments, named, ih]
          constructor
          · rintro ⟨atMostOne, asks⟩
            exact ⟨.cons (fun _ _ both => other both.1) atMostOne,
              List.forall_mem_cons.mpr ⟨fun isOrder => absurd isOrder other, asks⟩⟩
          · rintro ⟨atMostOne, asks⟩
            exact ⟨atMostOne.of_cons, (List.forall_mem_cons.mp asks).2⟩
      | some name =>
          have isOrder : IsOrderName argument.1 := by simp [isOrderName_iff, named]
          rw [exists_ofArguments_cons_iff named, exists_ofArgument_iff named]
          constructor
          · rintro ⟨asks, others⟩
            refine ⟨.cons (fun other member both => others other member both.2) ?_,
              List.forall_mem_cons.mpr ⟨fun _ => asks, fun other member isOther =>
                absurd isOther (others other member)⟩⟩
            exact List.pairwise_of_forall_mem_list fun first firstMember _ _ both =>
              others first firstMember both.1
          · rintro ⟨atMostOne, asks⟩
            exact ⟨(List.forall_mem_cons.mp asks).1 isOrder, fun other member isOther =>
              (List.pairwise_cons.mp atMostOne).1 other member ⟨isOrder, isOther⟩⟩

end Order

namespace Statement

variable {scope : Scope} {statement : Statement}

theorem exists_count?_iff {argument : String} :
    (∃ count, Window.count? statement argument = .ok count) ↔
      ∀ text, statement.Gives argument text → Text.WritesWord text := by
  simp only [gives_iff, Text.writesWord_iff, Window.count?]
  cases statement.value? argument with
  | none => simp
  | some text => cases read : Text.word? text <;> simp [read]

theorem exists_window_iff :
    (∃ window, Window.ofStatement statement = .ok window) ↔
      (∀ text, statement.Gives "skip" text → Text.WritesWord text) ∧
        ∀ text, statement.Gives "take" text → Text.WritesWord text := by
  rw [← exists_count?_iff, ← exists_count?_iff]
  constructor
  · rintro ⟨window, read⟩
    obtain ⟨skip, skipped, following⟩ := bind_eq_ok_iff.mp read
    obtain ⟨take, taken, -⟩ := bind_eq_ok_iff.mp following
    exact ⟨⟨skip, skipped⟩, take, taken⟩
  · rintro ⟨⟨skip, skipped⟩, take, taken⟩
    exact ⟨_, bind_eq_ok_iff.mpr ⟨skip, skipped, bind_eq_ok_iff.mpr ⟨take, taken, rfl⟩⟩⟩

/-- Whether a text is the number of a board. -/
def WritesBoard (text : String) : Prop :=
  ∃ number, 0 < number ∧ number < 2 ^ 64 ∧ Text.WritesNumber text number

theorem writesBoard_iff {text : String} :
    WritesBoard text ↔ ∃ id, (Text.word? text).filter (0 < ·) = some id := by
  simp only [Option.filter_eq_some_iff, Text.word?_eq_some_iff, decide_eq_true_iff,
    UInt64.lt_iff_toNat_lt, UInt64.toNat_zero]
  constructor
  · rintro ⟨number, positive, bounded, written⟩
    have same : number.toUInt64.toNat = number := UInt64.toNat_ofNat_of_lt' bounded
    exact ⟨number.toUInt64, same.symm ▸ written, same.symm ▸ positive⟩
  · rintro ⟨id, written, positive⟩
    exact ⟨id.toNat, positive, id.toNat_lt, written⟩

/-- A board is resolved from a good number, or else from the scope.  Something has to be
known of the scope of a summary. -/
theorem exists_boardIn?_iff {hasProject : Prop} :
    (∃ board, statement.boardIn? scope = .ok board ∧ (hasProject ∨ board ≠ none)) ↔
      (∀ text, statement.Gives "board" text → WritesBoard text) ∧
        (hasProject ∨ (∃ text, statement.Gives "board" text) ∨ ∃ id ∈ scope.board, 0 < id) := by
  simp only [gives_iff, writesBoard_iff, boardIn?]
  cases statement.value? "board" with
  | none =>
      have known : scope.board? ≠ none ↔ ∃ id ∈ scope.board, 0 < id := by
        simp only [Scope.board?, ne_eq, Option.filter_eq_none_iff, decide_eq_true_eq, not_forall,
          not_not, exists_prop, Option.mem_def]
      simp [known]
  | some text =>
      simp only [Option.some.injEq, forall_eq']
      cases (Text.word? text).filter (0 < ·) <;> simp

/-- The names of the arguments of lists and counts, apart from those for an order. -/
def listNames : List String := ["project", "type", "status", "assignee", "priority", "skip", "take"]

structure GetRules (statement : Statement) : Prop where
  unnamed : statement.named = []
  key : ∃ text, statement.positional = [text] ∧ ¬ Text.Blank text

structure ListRules (scope : Scope) (statement : Statement) : Prop where
  known : ∀ argument ∈ statement.named, argument.1 ∈ listNames ∨ Order.IsOrderName argument.1
  atMostOne : statement.positional.length ≤ 1
  project : statement.HasProject scope
  order : Order.Rules statement.named
  skip : ∀ text, statement.Gives "skip" text → Text.WritesWord text
  take : ∀ text, statement.Gives "take" text → Text.WritesWord text

structure SummaryRules (scope : Scope) (statement : Statement) : Prop where
  known : ∀ argument ∈ statement.named, argument.1 = "project" ∨ argument.1 = "board"
  atMostOne : statement.positional.length ≤ 1
  board : ∀ text, statement.Gives "board" text → WritesBoard text
  placed : statement.HasProject scope ∨ (∃ text, statement.Gives "board" text) ∨
    ∃ id ∈ scope.board, 0 < id

/-- A blank text by name is refused even if there is one by place. -/
structure SearchRules (statement : Statement) : Prop where
  known : ∀ argument ∈ statement.named, argument.1 = "jql"
  atMostOne : statement.positional.length ≤ 1
  text : (∃ text, statement.Gives "jql" text ∧ ¬ Text.Blank text) ∨
    (∀ text, ¬ statement.Gives "jql" text) ∧ ∃ text ∈ statement.positional, ¬ Text.Blank text

/-- The rules of an operation for the arguments of a statement. -/
def Keeps (scope : Scope) (statement : Statement) : Operation → Prop
  | .get => GetRules statement
  | .list => ListRules scope statement
  | .count => ListRules scope statement
  | .summary => SummaryRules scope statement
  | .search => SearchRules statement
  | .schema => statement.named = []

variable {selection : Selection}

theorem getRules_iff :
    (∃ task, Accepts scope statement selection .get task) ↔ GetRules statement := by
  constructor
  · rintro ⟨task, accepts⟩
    cases accepts with
    | @get text key unnamed only present =>
        refine ⟨unnamed, text, only, fun blank => ?_⟩
        rw [Text.nonblank?_eq_none_iff.mpr blank] at present
        cases present
  · rintro ⟨unnamed, text, only, inked⟩
    obtain ⟨key, present⟩ := Option.ne_none_iff_exists'.mp
      (mt Text.nonblank?_eq_none_iff.mp inked)
    exact ⟨_, .get unnamed only present⟩

theorem isListArgument_iff {name : String} :
    isListArgument name = true ↔ name ∈ listNames ∨ Order.IsOrderName name := by
  rw [isListArgument, Bool.or_eq_true, ← Order.isOrderName_iff, List.contains_iff_mem, listNames]

/-- What lists and counts have in common: their checks, though not in the same order. -/
theorem listRules_iff :
    ListRules scope statement ↔
      (∀ argument ∈ statement.named, isListArgument argument.1) ∧
        (∃ criteria, Criteria.ofStatement scope statement = .ok criteria) ∧
        (∃ order, Order.ofArguments statement.named = .ok order) ∧
        ∃ window, Window.ofStatement statement = .ok window := by
  have resolved : (∃ criteria, Criteria.ofStatement scope statement = .ok criteria) ↔
      statement.positional.length ≤ 1 ∧ statement.HasProject scope := by
    constructor
    · rintro ⟨criteria, read⟩
      obtain ⟨atMostOne, project, placed, -⟩ := Criteria.ofStatement_eq_ok_iff.mp read
      exact ⟨atMostOne, (hasProject_iff atMostOne).mpr (by simp [placed])⟩
    · rintro ⟨atMostOne, hasProject⟩
      obtain ⟨project, placed⟩ := Option.ne_none_iff_exists'.mp
        ((hasProject_iff atMostOne).mp hasProject)
      exact ⟨_, Criteria.ofStatement_eq_ok_iff.mpr ⟨atMostOne, project, placed, rfl⟩⟩
  simp only [isListArgument_iff, resolved, Order.exists_ofArguments_iff, exists_window_iff]
  constructor
  · rintro ⟨known, atMostOne, project, order, skip, take⟩
    exact ⟨known, ⟨atMostOne, project⟩, order, skip, take⟩
  · rintro ⟨known, ⟨atMostOne, project⟩, order, skip, take⟩
    exact ⟨known, atMostOne, project, order, skip, take⟩

theorem summaryRules_iff :
    (∃ task, Accepts scope statement selection .summary task) ↔ SummaryRules scope statement := by
  constructor
  · rintro ⟨task, accepts⟩
    cases accepts with
    | @summary board known atMostOne chosen placed =>
        have boards := exists_boardIn?_iff.mp ⟨board, chosen,
          (not_and_or.mp placed).imp_left (hasProject_iff atMostOne).mpr⟩
        exact ⟨known, atMostOne, boards.1, boards.2⟩
  · rintro ⟨known, atMostOne, board, placed⟩
    obtain ⟨resolved, chosen, present⟩ := exists_boardIn?_iff.mpr ⟨board, placed⟩
    exact ⟨_, .summary known atMostOne chosen
      (not_and_or.mpr (present.imp_left (hasProject_iff atMostOne).mp))⟩

theorem searchRules_iff :
    (∃ task, Accepts scope statement selection .search task) ↔ SearchRules statement := by
  constructor
  · rintro ⟨task, accepts⟩
    cases accepts with
    | @search text known atMostOne given present =>
        have inked := mt Text.nonblank?_eq_none_iff.mpr present
        refine ⟨known, atMostOne, ?_⟩
        simp only [gives_iff]
        cases named : statement.value? "jql" with
        | some other =>
            rw [named, Option.some_or] at given
            cases given
            exact .inl ⟨text, rfl, inked⟩
        | none =>
            rw [named, Option.none_or] at given
            exact .inr ⟨nofun, text, List.mem_of_mem_head? given, inked⟩
  · rintro ⟨known, atMostOne, ⟨text, named, inked⟩ | ⟨unnamed, text, member, inked⟩⟩
    · have given := gives_iff.mp named
      exact ⟨_, .search known atMostOne (by rw [given, Option.some_or])
        (mt Text.nonblank?_eq_none_iff.mp inked)⟩
    · have absent : statement.value? "jql" = none :=
        Option.eq_none_iff_forall_ne_some.mpr fun text => mt gives_iff.mpr (unnamed text)
      have only : statement.positional = [text] := by
        obtain ⟨earlier, later, split⟩ := List.append_of_mem member
        rw [split, List.length_append, List.length_cons] at atMostOne
        have noEarlier : earlier = [] := List.eq_nil_of_length_eq_zero (by omega)
        have noLater : later = [] := List.eq_nil_of_length_eq_zero (by omega)
        rw [split, noEarlier, noLater, List.nil_append]
      exact ⟨_, .search known atMostOne (by rw [absent, only]; rfl)
        (mt Text.nonblank?_eq_none_iff.mp inked)⟩

theorem exists_accepts_iff {operation : Operation} :
    (∃ task, Accepts scope statement selection operation task) ↔
      statement.Keeps scope operation := by
  cases operation with
  | get => exact getRules_iff
  | list =>
      rw [Keeps, listRules_iff]
      constructor
      · rintro ⟨task, accepts⟩
        cases accepts with
        | list known resolved ordered shown =>
            exact ⟨known, ⟨_, resolved⟩, ⟨_, ordered⟩, _, shown⟩
      · rintro ⟨known, ⟨criteria, resolved⟩, ⟨order, ordered⟩, window, shown⟩
        exact ⟨_, .list known resolved ordered shown⟩
  | count =>
      rw [Keeps, listRules_iff]
      constructor
      · rintro ⟨task, accepts⟩
        cases accepts with
        | count known ordered shown resolved =>
            exact ⟨known, ⟨_, resolved⟩, ⟨_, ordered⟩, _, shown⟩
      · rintro ⟨known, ⟨criteria, resolved⟩, ⟨order, ordered⟩, window, shown⟩
        exact ⟨_, .count known ordered shown resolved⟩
  | summary => exact summaryRules_iff
  | search => exact searchRules_iff
  | schema =>
      constructor
      · rintro ⟨task, accepts⟩
        cases accepts with
        | schema unnamed => exact unnamed
      · exact fun unnamed => ⟨_, .schema unnamed⟩

/-- A statement whose fields are known has a task exactly if it keeps the rules of its
operation.  Then no service sees it refused, and otherwise it is refused as invalid and no
service is asked. -/
theorem refused_unless_rules_kept (service : ChangingService) (scope : Scope)
    {statement : Statement} {operation : Operation}
    (called : statement.operation = operation.name)
    (resolvable : ∃ selection, Selection.ofNames (statement.fields.getD []) = .ok selection) :
    ((∃ task, statement.task scope = .ok task) ↔ statement.Keeps scope operation) ∧
      (statement.Keeps scope operation → ∀ error : QueryError, error.IsRefusal →
        (statement.attempt service scope).1 ≠ .error error) ∧
      (¬ statement.Keeps scope operation → ∃ argument message,
        statement.attempt service scope =
          (.error (.invalid statement.operation argument message), [])) := by
  have known : Operation.ofName? statement.operation = some operation :=
    called ▸ operation.ofName?_name
  obtain ⟨selection, chosen⟩ := resolvable
  have accepted : (∃ task, statement.task scope = .ok task) ↔
      statement.Keeps scope operation := by
    simp only [task_eq_ok_iff, known, chosen, Option.some.injEq, Except.ok.injEq,
      exists_and_left, exists_eq_left']
    exact exists_accepts_iff
  refine ⟨accepted, fun keeps error refusal failed => ?_, fun broken => ?_⟩
  · obtain ⟨task, judged⟩ := accepted.mpr keeps
    rw [attempt_eq_refusal_iff service refusal, judged] at failed
    cases failed
  · cases judged : statement.task scope with
    | ok task => exact absurd (accepted.mp ⟨task, judged⟩) broken
    | error verdict =>
        rw [attempt_refused service judged]
        rcases error_of_task judged with ⟨unknown, -⟩ | ⟨argument, message, rfl⟩
        · rw [known] at unknown
          cases unknown
        · exact ⟨argument, message, rfl⟩

/-- A list whose direction is in capitals and whose number has a sign. -/
def signedList : Statement :=
  ⟨"list", [⟨none, "A"⟩, ⟨some "sort_key", "DESC"⟩, ⟨some "skip", "+1"⟩], none⟩

/-- A search with a text by place, and with a blank one by name. -/
def blankSearch : Statement := ⟨"search", [⟨none, "x = y"⟩, ⟨some "jql", " "⟩], none⟩

theorem signs_kept_and_blank_refused :
    (signedList.Keeps {} .list ∧
      ∀ error : QueryError, error.IsRefusal →
        (signedList.attempt breakingOff {}).1 ≠ .error error) ∧
      ¬ blankSearch.Keeps {} .search ∧ ∃ argument message,
        blankSearch.attempt breakingOff {} = (.error (.invalid "search" argument message), []) := by
  obtain ⟨accepted, unrefused, -⟩ := refused_unless_rules_kept breakingOff {}
    (show signedList.operation = Operation.list.name from rfl) ⟨_, rfl⟩
  obtain ⟨judged, -, refused⟩ := refused_unless_rules_kept breakingOff {}
    (show blankSearch.operation = Operation.search.name from rfl) ⟨_, rfl⟩
  have keeps : signedList.Keeps {} .list := accepted.mp ⟨_, rfl⟩
  have broken : ¬ blankSearch.Keeps {} .search := by
    rw [← judged]
    rintro ⟨task, passed⟩
    cases passed
  exact ⟨⟨keeps, unrefused keeps⟩, broken, refused broken⟩

end Statement

end IssueQuery
