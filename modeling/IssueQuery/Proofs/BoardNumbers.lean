import IssueQuery.Proofs.Precedence
import IssueQuery.Proofs.Tallies
import Mathlib.Algebra.Order.Ring.Int
import Mathlib.Data.Nat.Cast.Order.Ring

namespace IssueQuery

/-! Numbers of boards.

Boards are numbered by words of 64 bits, and values hold whole numbers with a sign.  A summary
asks for its board by the number itself, and shows it as far as a value can hold it.
-/

namespace Json

theorem itemsDepth_le {items : List Json} {bound : Nat}
    (each : ∀ item ∈ items, item.depth ≤ bound) : itemsDepth items ≤ bound := by
  induction items with
  | nil => exact Nat.zero_le bound
  | cons item rest ih =>
      obtain ⟨here, later⟩ := List.forall_mem_cons.mp each
      exact max_le here (ih later)

theorem membersDepth_le {members : List (String × Json)} {bound : Nat}
    (each : ∀ member ∈ members, member.2.depth ≤ bound) : membersDepth members ≤ bound := by
  induction members with
  | nil => exact Nat.zero_le bound
  | cons member rest ih =>
      obtain ⟨here, later⟩ := List.forall_mem_cons.mp each
      exact max_le here (ih later)

end Json

namespace Value

variable {entries : List (String × Value)}

theorem encodable_ofNat (count : Nat) : (ofNat count).Encodable := by
  have greatest : (greatestInt : Int) = Int.pow 2 63 - 1 := rfl
  have lower := Text.intPow_two_63
  exact .int (by omega) (by omega)

/-- Entries with different names, whose values can be written and are no deeper than a bound. -/
structure Shallow (bound : Nat) (entries : List (String × Value)) : Prop where
  distinct : (entries.map (·.1)).Nodup
  encodable : ∀ entry ∈ entries, entry.2.Encodable
  depth_le : ∀ entry ∈ entries, entry.2.toJson.depth ≤ bound

namespace Shallow

variable {bound : Nat}

theorem encodable_record (shallow : Shallow bound entries) : (Value.record entries).Encodable :=
  .record shallow.distinct shallow.encodable

theorem depth_record_le (shallow : Shallow bound entries) :
    (Value.record entries).toJson.depth ≤ bound + 1 := by
  rw [toJson, entriesToJson_eq_map, Json.depth]
  refine Nat.succ_le_succ (Json.membersDepth_le fun member listed => ?_)
  obtain ⟨entry, given, rfl⟩ := List.mem_map.mp listed
  exact shallow.depth_le entry given

end Shallow

/-- Whether a value can be written, and is no deeper than a bound. -/
structure Legible (bound : Nat) (value : Value) : Prop where
  encodable : value.Encodable
  depth_le : value.toJson.depth ≤ bound

theorem Legible.mono {bound greater : Nat} {value : Value} (legible : value.Legible bound)
    (le : bound ≤ greater) : value.Legible greater :=
  ⟨legible.encodable, legible.depth_le.trans le⟩

theorem legible_text (text : String) : (Value.text text).Legible 0 := ⟨.text text, Nat.le_refl 0⟩

theorem legible_ofNat (count : Nat) : (ofNat count).Legible 0 :=
  ⟨encodable_ofNat count, Nat.le_refl 0⟩

/-- A record is legible if what was inserted is, since its names are distinct of themselves. -/
theorem legible_ofRecord {bound : Nat} {inserted : List (String × Value)}
    (each : ∀ entry ∈ inserted, entry.2.Legible bound) :
    (ofRecord (.ofList inserted)).Legible (bound + 1) := by
  have shallow : Shallow bound (Record.ofList inserted).entries :=
    ⟨Record.nodup_keys_ofList inserted,
      fun entry member => (each entry (Record.mem_of_mem_ofList member)).encodable,
      fun entry member => (each entry (Record.mem_of_mem_ofList member)).depth_le⟩
  exact ⟨shallow.encodable_record, shallow.depth_record_le⟩

theorem legible_tally (tally : Tally) : (ofRecord tally.toRecord).Legible 1 :=
  legible_ofRecord (List.forall_mem_map.mpr fun entry _ => legible_ofNat entry.2)

/-- Of a record that is written and read, an entry is found under its name. -/
theorem get?_sorted_toJson {name : String} {value : Value}
    (distinct : (entries.map (·.1)).Nodup) (found : entries.lookup name = some value) :
    (Value.record entries).toJson.sorted.get? name = some value.toJson.sorted := by
  have names : ((entries.map (Prod.map id toJson)).map (·.1)).Nodup := by
    rwa [List.map_map]
  rw [toJson, Json.sorted, Json.get?, entriesToJson_eq_map, Json.lookup_sorted names,
    Json.lookup_map, found]
  rfl

theorem ofText?_renderResults {results : List Value}
    (encodable : ∀ result ∈ results, result.Encodable)
    (shallow : (ofResults results).toJson.depth ≤ 127) :
    Json.ofText? (renderResults results) = some (ofResults results).toJson.sorted := by
  rw [Json.ofText?, sourceOfText?_renderResults encodable shallow, Option.bind_some,
    Json.toJson?_toSource]

end Value

namespace Plan

variable {Result : Type}

/-- Whether a plan comes to something good if its calls are answered as expected. -/
inductive Ensures (Expected : (call : Call) → call.Answer → Prop) (Good : Result → Prop) :
    Plan Result → Prop
  | done {result : Result} (good : Good result) : Ensures Expected Good (.done result)
  | ask {call : Call} {next : call.Answer → Plan Result}
      (following : ∀ answer, Expected call answer → Ensures Expected Good (next answer)) :
      Ensures Expected Good (.ask call next)

variable {Expected : (call : Call) → call.Answer → Prop} {Good : Result → Prop}
  {State : Type} {answer : (call : Call) → StateM State call.Outcome}

theorem Ensures.bind {Between : Type} {Fair : Between → Prop} {plan : Plan Between}
    (ensures : plan.Ensures Expected Fair) {next : Between → Plan Result}
    (following : ∀ result, Fair result → (next result).Ensures Expected Good) :
    (plan.bind next).Ensures Expected Good := by
  induction ensures with
  | done fair => exact following _ fair
  | ask _ ih => exact .ask ih

/-- A run comes to something good, or to the error that a call of it has been answered with. -/
theorem Ensures.run {plan : Plan Result} (ensures : plan.Ensures Expected Good)
    (expected : ∀ call state found, (Id.run ((answer call).run state)).1 = .ok found →
      Expected call found)
    (before : Transcript Call.Outcome) (state : State) :
    (∃ result, (Id.run (((plan.run (transcribed answer)).run before).run state)).1.1 = .ok result ∧
      Good result) ∨
    ∃ call cause later, (Id.run (((plan.run (transcribed answer)).run before).run state)).1.1 =
      .error cause ∧ (Id.run ((answer call).run later)).1 = .error cause ∧
      ⟨call, .error cause⟩ ∈
        (Id.run (((plan.run (transcribed answer)).run before).run state)).1.2 := by
  induction ensures generalizing before state with
  | done good => exact .inl ⟨_, rfl, good⟩
  | @ask call next following ih =>
      cases answered : Id.run ((answer call).run state) with
      | mk outcome after =>
          cases outcome with
          | error cause =>
              rw [run_ask_of_error answered]
              exact .inr ⟨call, cause, state, rfl, congrArg Prod.fst answered,
                List.mem_append_right _ (List.mem_singleton_self _)⟩
          | ok found =>
              rw [run_ask_of_ok answered]
              exact ih found (expected call state found (congrArg Prod.fst answered)) _ after

end Plan

namespace Value

/-- Whether a value is a record that shows a number as that of a board. -/
def ShowsBoard (number : Nat) (value : Value) : Prop :=
  ∃ entries board, value = .record entries ∧
    entries.lookup "board" = some (.record board) ∧ board.lookup "id" = some (.int number)

theorem distinct_of_encodable (encodable : (Value.record entries).Encodable) :
    (entries.map (·.1)).Nodup := by
  cases encodable with
  | record distinct each => exact distinct

theorem encodable_of_lookup {name : String} {value : Value}
    (encodable : (Value.record entries).Encodable) (found : entries.lookup name = some value) :
    value.Encodable := by
  cases encodable with
  | record distinct each =>
      obtain ⟨earlier, later, split, -⟩ := List.lookup_eq_some_iff.mp found
      exact each (name, value) (split ▸ List.mem_append_right _ List.mem_cons_self)

theorem ShowsBoard.read_back {number : Nat} {value : Value} (shows : value.ShowsBoard number)
    (encodable : value.Encodable) (shallow : value.toJson.depth ≤ 127) :
    ∃ json, Json.ofText? (renderResults [value]) = some json ∧
      (json.get? "board").bind (·.get? "id") = some (.ofNat number) := by
  obtain ⟨entries, board, rfl, here, inside⟩ := shows
  have distinct := distinct_of_encodable (encodable_of_lookup encodable here)
  refine ⟨_, ofText?_renderResults (List.forall_mem_singleton.mpr encodable) shallow, ?_⟩
  rw [ofResults, get?_sorted_toJson (distinct_of_encodable encodable) here, Option.bind_some,
    get?_sorted_toJson distinct inside]
  rfl

end Value

namespace Task

def boardRecord (board : Board) : List (String × Value) :=
  [("id", .ofNat board.id.toNat), ("name", .text board.name), ("type", .text board.type)]

theorem legible_boardEntries (board : Board) :
    ∀ entry ∈ Handler.boardEntries board, entry.2.Legible 1 :=
  List.forall_mem_singleton.mpr
    (Value.legible_ofRecord (by simp [Value.legible_text, Value.legible_ofNat]))

theorem projectPlan_ensures {Expected : (call : Call) → call.Answer → Prop}
    (project : Option String) :
    (projectPlan project).Ensures Expected fun entries =>
      ∀ entry ∈ entries, entry.2.Legible 1 := by
  cases project with
  | none => exact .done (by simp)
  | some key =>
      refine .ask fun project _ => .ask fun issues _ => .done ?_
      have described : (Value.ofRecord (.ofList [("key", .text project.key),
          ("name", .text project.name), ("type", .text project.typeKey)])).Legible 1 :=
        Value.legible_ofRecord (by simp [Value.legible_text])
      simp [Handler.projectEntries, described, Value.legible_tally,
        (Value.legible_ofNat issues.length).mono (Nat.zero_le 1)]

/-- Whether a value can be written, and shows the number of a board as far as a value can hold
it. -/
structure Shows (number : UInt64) (value : Value) : Prop where
  shows : value.ShowsBoard (min number.toNat (2 ^ 63 - 1))
  encodable : value.Encodable
  shallow : value.toJson.depth ≤ 127

/-- The board is shown whatever is inserted before it. -/
theorem shows_of_legible {entries : List (String × Value)} (board : Board)
    (each : ∀ entry ∈ entries, entry.2.Legible 1) :
    Shows board.id (.ofRecord (.ofList (entries ++ Handler.boardEntries board))) := by
  have found : (Record.ofList (entries ++ Handler.boardEntries board)).get? "board" =
      some (.record (boardRecord board)) := by
    rw [Handler.boardEntries, Record.ofList_concat, Record.get?_insert, if_pos rfl]
    rfl
  have numbered : (boardRecord board).lookup "id" =
      some (.int (min board.id.toNat (2 ^ 63 - 1) : Nat)) := by
    rw [Nat.cast_min]
    rfl
  have whole : (Value.ofRecord (.ofList (entries ++ Handler.boardEntries board))).Legible 2 :=
    Value.legible_ofRecord (List.forall_mem_append.mpr ⟨each, legible_boardEntries board⟩)
  exact ⟨⟨_, _, rfl, found, numbered⟩, whole.encodable, whole.depth_le.trans (by decide)⟩

/-- Whether a call about a certain board is answered with a board of the same number. -/
def AnswersBoard (number : UInt64) : (call : Call) → call.Answer → Prop
  | .board asked, board => asked = number → board.id = number
  | _, _ => True

theorem summaryPlan_ensures (project : Option String) (number : UInt64) :
    (summaryPlan project (some number)).Ensures (AnswersBoard number) (Shows number) := by
  refine (projectPlan_ensures project).bind fun ofProject each => ?_
  refine .ask fun board expected => .done ?_
  have same : board.id = number := expected rfl
  exact same ▸ shows_of_legible board each

theorem mem_summaryCalls {project : Option String} {number : UInt64} {call : Call}
    (member : call ∈ summaryCalls project (some number)) :
    call = .board number ∨ call.project? ≠ none := by
  cases project with
  | none => exact .inl (List.mem_singleton.mp member)
  | some key =>
      simp only [summaryCalls, Option.toList_some, List.flatMap_singleton, List.map_cons,
        List.map_nil, List.cons_append, List.nil_append, List.mem_cons, List.not_mem_nil,
        or_false] at member
      rcases member with rfl | rfl | rfl
      · exact .inr (Option.some_ne_none key)
      · exact .inr (Option.some_ne_none key)
      · exact .inl rfl

end Task

namespace Statement

variable {statement : Statement} {scope : Scope} {task : Task} {number : UInt64}

/-- Whether a number is that of the board which a statement names, or else that of the scope.
Boards are numbered from one. -/
def ResolvesBoard (scope : Scope) (statement : Statement) (number : UInt64) : Prop :=
  0 < number ∧
    match (statement.given (some "board")).getLast? with
    | some text => Text.WritesNumber text number.toNat
    | none => scope.board = some number

theorem boardIn?_of_resolvesBoard (resolves : statement.ResolvesBoard scope number) :
    statement.boardIn? scope = .ok (some number) := by
  obtain ⟨positive, chosen⟩ := resolves
  rw [boardIn?, value?_eq_given]
  cases given : (statement.given (some "board")).getLast? with
  | none =>
      have ofScope : scope.board = some number := by simpa only [given] using chosen
      simp [Scope.board?, ofScope, positive]
  | some text =>
      have written : Text.WritesNumber text number.toNat := by simpa only [given] using chosen
      have kept : (Text.word? text).filter (0 < ·) = some number := by
        rw [Text.word?_eq_some_iff.mpr written, Option.filter_some, if_pos (by simpa using positive)]
      simp only [kept]

theorem task_of_resolvesBoard (called : statement.operation = "summary")
    (accepted : statement.task scope = .ok task)
    (resolves : statement.ResolvesBoard scope number) :
    task = .summary (statement.projectIn? scope) (some number) := by
  obtain ⟨operation, selection, known, -, accepts⟩ := task_eq_ok_iff.mp accepted
  rw [called] at known
  cases known
  cases accepts with
  | summary known atMostOne chosen placed =>
      rw [boardIn?_of_resolvesBoard resolves] at chosen
      cases chosen
      rfl

theorem attempt_of_ensures (service : ChangingService)
    {Expected : (call : Call) → call.Answer → Prop} {Good : Value → Prop}
    (accepted : statement.task scope = .ok task) (ensures : task.plan.Ensures Expected Good)
    (expected : ∀ call state found, (Id.run ((service.answer call).run state)).1 = .ok found →
      Expected call found) :
    (∃ value, (statement.attempt service scope).1 = .ok value ∧ Good value) ∨
    ∃ call cause later, (statement.attempt service scope).1 = .error (.service cause) ∧
      (Id.run ((service.answer call).run later)).1 = .error cause ∧
      ⟨call, .error cause⟩ ∈ (statement.attempt service scope).2 := by
  simp only [attempt, execute_accepted accepted, StateT.run_map, Id.run_map]
  rcases ensures.run expected [] service.start with
    ⟨value, returned, good⟩ | ⟨call, cause, later, failed, answered, recorded⟩
  · exact .inl ⟨value, congrArg (Except.mapError QueryError.service) returned, good⟩
  · exact .inr ⟨call, cause, later, congrArg (Except.mapError QueryError.service) failed, answered,
      recorded⟩

/-- Whether a service always answers a call about a board with a board of the same number. -/
def KnowsBoard (service : ChangingService) (number : UInt64) : Prop :=
  ∀ state, ∃ board,
    (Id.run ((service.answer (.board number)).run state)).1 = .ok board ∧ board.id = number

theorem answersBoard_of_knowsBoard {service : ChangingService}
    (known : KnowsBoard service number) (call : Call) (state : service.State)
    (found : call.Answer) (answered : (Id.run ((service.answer call).run state)).1 = .ok found) :
    Task.AnswersBoard number call found := by
  cases call with
  | board asked =>
      rintro rfl
      obtain ⟨board, same, numbered⟩ := known state
      rw [answered] at same
      cases same
      exact numbered
  | _ => trivial

/-- A summary asks about the board whose number it resolves to, unless it breaks off before that
because a call about its project fails.  In its record of the board, and in its text, stands that
number, or the greatest whole number of a value if it is beyond that. -/
theorem board_number_shown (service : ChangingService) (called : statement.operation = "summary")
    (accepted : statement.task scope = .ok task)
    (resolves : statement.ResolvesBoard scope number) (known : KnowsBoard service number) :
    (∃ call cause, call.project? ≠ none ∧
      ⟨call, .error cause⟩ ∈ (statement.attempt service scope).2 ∧
      (statement.attempt service scope).1 = .error (.service cause)) ∨
    ∃ value json, (statement.attempt service scope).1 = .ok value ∧
      .board number ∈ statement.callsMade service scope ∧
      value.ShowsBoard (min number.toNat (2 ^ 63 - 1)) ∧
      Json.ofText? (renderResults [value]) = some json ∧
      (json.get? "board").bind (·.get? "id") = some (.ofNat (min number.toNat (2 ^ 63 - 1))) := by
  obtain rfl := task_of_resolvesBoard called accepted resolves
  obtain ⟨inTurn, -, complete⟩ := callsMade_of_accepted service accepted
    (Task.summaryPlan_asks (statement.projectIn? scope) (some number))
  rcases attempt_of_ensures service accepted (Task.summaryPlan_ensures _ number)
    (answersBoard_of_knowsBoard known) with
    ⟨value, returned, shows, encodable, shallow⟩ | ⟨call, cause, later, failed, answered, recorded⟩
  · obtain ⟨json, read, stands⟩ := shows.read_back encodable shallow
    refine .inr ⟨value, json, returned, ?_, shows, read, stands⟩
    rw [complete value returned, Task.summaryCalls]
    exact List.mem_append_right _ (List.mem_singleton_self _)
  · -- The board is known, so that only a call about the project can have failed.
    refine .inl ⟨call, cause, ?_, recorded, failed⟩
    rcases Task.mem_summaryCalls (inTurn.subset (List.mem_map_of_mem recorded)) with rfl | ofProject
    · obtain ⟨board, same, -⟩ := known later
      rw [answered] at same
      cases same
    · exact ofProject

def summaryOfBoard (number : String) : Statement := ⟨"summary", [⟨some "board", number⟩], none⟩

def ofStore (store : Store) : ChangingService :=
  ⟨Unit, (), fun call => pure (store.service call)⟩

def scrumBoard (number : UInt64) : Board := { id := number, name := "B", type := "scrum" }

def storeOfBoard (number : UInt64) : Store where
  boards := [scrumBoard number]

theorem service_storeOfBoard (number : UInt64) :
    (storeOfBoard number).service (.board number) = .ok (scrumBoard number) := by
  simp [storeOfBoard, scrumBoard, Store.service]

theorem knowsBoard_storeOfBoard (number : UInt64) :
    KnowsBoard (ofStore (storeOfBoard number)) number :=
  fun _ => ⟨_, service_storeOfBoard number, rfl⟩

theorem attempt_summaryOfBoard {text : String}
    (accepted : (summaryOfBoard text).task {} = .ok (.summary none (some number))) :
    ((summaryOfBoard text).attempt (ofStore (storeOfBoard number)) {}).1 =
      .ok (.record [("board", .record (Task.boardRecord (scrumBoard number)))]) := by
  have answered : Id.run (((ofStore (storeOfBoard number)).answer (.board number)).run ()) =
      (.ok (scrumBoard number), ()) := congrArg (·, ()) (service_storeOfBoard number)
  simp only [attempt, execute_accepted accepted, StateT.run_map, Id.run_map]
  exact congrArg (Except.mapError QueryError.service ·.1) (Plan.run_ask_of_ok answered)

theorem greatest_board_shown :
    ∃ value json,
      ((summaryOfBoard "9223372036854775807").attempt
        (ofStore (storeOfBoard 9223372036854775807)) {}).1 = .ok value ∧
      value.ShowsBoard 9223372036854775807 ∧ Json.ofText? (renderResults [value]) = some json ∧
      (json.get? "board").bind (·.get? "id") = some (.ofNat 9223372036854775807) := by
  have accepted : (summaryOfBoard "9223372036854775807").task {} =
      .ok (.summary none (some 9223372036854775807)) := by decide +kernel
  have resolves : (summaryOfBoard "9223372036854775807").ResolvesBoard {} 9223372036854775807 :=
    ⟨by decide, Text.word?_eq_some_iff.mp (by decide +kernel)⟩
  rcases board_number_shown _ rfl accepted resolves (knowsBoard_storeOfBoard 9223372036854775807)
    with ⟨call, cause, -, -, failed⟩ | ⟨value, json, returned, -, shows, read, stands⟩
  · rw [attempt_summaryOfBoard accepted] at failed
    cases failed
  · exact ⟨value, json, returned, shows, read, stands⟩

/-- The next number is shown as the same one, and a board is not asked about behind a project
that is unknown. -/
theorem board_beyond_greatest_shown_as_greatest :
    (summaryOfBoard "9223372036854775808").ResolvesBoard {} 9223372036854775808 ∧
      KnowsBoard (ofStore (storeOfBoard 9223372036854775808)) 9223372036854775808 ∧
      ((summaryOfBoard "9223372036854775808").attempt
        (ofStore (storeOfBoard 9223372036854775808)) {}).1 =
          .ok (.record [("board", .record [("id", .int 9223372036854775807), ("name", .text "B"),
            ("type", .text "scrum")])]) ∧
      (summaryOfA [⟨some "board", "7"⟩]).ResolvesBoard {} 7 ∧
      KnowsBoard (ofStore (storeOfBoard 7)) 7 ∧
      (summaryOfA [⟨some "board", "7"⟩]).callsMade (ofStore (storeOfBoard 7)) {} =
        [.project "A"] := by
  have accepted : (summaryOfBoard "9223372036854775808").task {} =
      .ok (.summary none (some 9223372036854775808)) := by decide +kernel
  have withProject : (summaryOfA [⟨some "board", "7"⟩]).task {} =
      .ok (.summary (some "A") (some 7)) := by decide +kernel
  refine ⟨⟨by decide, Text.word?_eq_some_iff.mp (by decide +kernel)⟩,
    knowsBoard_storeOfBoard _, attempt_summaryOfBoard accepted,
    ⟨by decide, Text.word?_eq_some_iff.mp (by decide +kernel)⟩, knowsBoard_storeOfBoard _, ?_⟩
  have answered : Id.run (((ofStore (storeOfBoard 7)).answer (.project "A")).run ()) =
      (.error (.notFound "project A"), ()) := rfl
  simp only [callsMade, attempt, execute_accepted withProject, StateT.run_map, Id.run_map]
  exact congrArg (List.map (·.1)) (congrArg Prod.snd (Plan.run_ask_of_error answered))

end Statement

end IssueQuery
