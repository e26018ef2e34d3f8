import IssueQuery.Proofs.BoardNumbers
import IssueQuery.Proofs.Descriptions

namespace IssueQuery

/-! Distinct names in results.

Records are made by insertions only, so that no name stands twice in one.  This holds of every
record inside a result too, and so of every object of the text that is printed.
-/

/-- Whether the names in each object inside a value are distinct, however deep it is. -/
inductive Json.DistinctlyNamed : Json → Prop
  | null : DistinctlyNamed .null
  | bool (value : Bool) : DistinctlyNamed (.bool value)
  | number (value : Json.Number) : DistinctlyNamed (.number value)
  | string (value : String) : DistinctlyNamed (.string value)
  | array {items : List Json} (each : ∀ item ∈ items, DistinctlyNamed item) :
      DistinctlyNamed (.array items)
  | object {members : List (String × Json)} (distinct : (members.map (·.1)).Nodup)
      (each : ∀ member ∈ members, DistinctlyNamed member.2) : DistinctlyNamed (.object members)

/-- A whole number that fits into 64 bits with a sign. -/
def Json.Number.FitsSigned : Json.Number → Prop
  | .int value => -Int.pow 2 63 ≤ value ∧ value < Int.pow 2 63
  | .float _ => False

namespace Value

/-- Whether the names in each record inside a value are distinct, however deep it is. -/
inductive DistinctlyNamed : Value → Prop
  | null : DistinctlyNamed .null
  | bool (value : Bool) : DistinctlyNamed (.bool value)
  | int (value : Int) : DistinctlyNamed (.int value)
  | float (value : Decimal.Binary64) : DistinctlyNamed (.float value)
  | text (value : String) : DistinctlyNamed (.text value)
  | list {items : List Value} (each : ∀ item ∈ items, DistinctlyNamed item) :
      DistinctlyNamed (.list items)
  | record {entries : List (String × Value)} (distinct : (entries.map (·.1)).Nodup)
      (each : ∀ entry ∈ entries, DistinctlyNamed entry.2) : DistinctlyNamed (.record entries)

theorem distinctlyNamed_ofRecord {inserted : List (String × Value)}
    (each : ∀ entry ∈ inserted, entry.2.DistinctlyNamed) :
    (ofRecord (.ofList inserted)).DistinctlyNamed :=
  .record (Record.nodup_keys_ofList inserted) fun entry member =>
    each entry (Record.mem_of_mem_ofList member)

mutual

theorem distinctlyNamed_ofJson : (json : Json) → (ofJson json).DistinctlyNamed
  | .null => .null
  | .bool value => .bool value
  | .number (.int value) => by
      rw [ofJson]
      split
      · exact .int value
      · exact .float _
  | .number (.float value) => .float value
  | .string value => .text value
  | .array items => .list (distinctlyNamed_ofItems items)
  | .object members => distinctlyNamed_ofRecord (distinctlyNamed_ofMembers members)

theorem distinctlyNamed_ofItems : (items : List Json) →
    ∀ value ∈ ofItems items, value.DistinctlyNamed
  | [] => by simp [ofItems]
  | item :: rest => by
      rw [ofItems, List.forall_mem_cons]
      exact ⟨distinctlyNamed_ofJson item, distinctlyNamed_ofItems rest⟩

theorem distinctlyNamed_ofMembers : (members : List (String × Json)) →
    ∀ entry ∈ ofMembers members, entry.2.DistinctlyNamed
  | [] => by simp [ofMembers]
  | (name, value) :: rest => by
      rw [ofMembers, List.forall_mem_cons]
      exact ⟨distinctlyNamed_ofJson value, distinctlyNamed_ofMembers rest⟩

end

theorem Encodable.distinctlyNamed {value : Value} (encodable : value.Encodable) :
    value.DistinctlyNamed := by
  induction encodable with
  | null => exact .null
  | bool value => exact .bool value
  | int lower upper => exact .int _
  | text value => exact .text value
  | list each ih => exact .list ih
  | record distinct each ih => exact .record distinct ih

theorem DistinctlyNamed.toJson {value : Value} (named : value.DistinctlyNamed) :
    value.toJson.DistinctlyNamed := by
  induction named with
  | null => exact .null
  | bool value => exact .bool value
  | int value => exact .number (.int value)
  | float value => exact .number (.float value)
  | text value => exact .string value
  | list each ih =>
      rw [Value.toJson, itemsToJson_eq_map]
      exact .array (List.forall_mem_map.mpr ih)
  | record distinct each ih =>
      rw [Value.toJson, entriesToJson_eq_map]
      refine .object ?_ (List.forall_mem_map.mpr ih)
      rwa [List.map_map]

theorem DistinctlyNamed.ofResults {results : List Value}
    (each : ∀ result ∈ results, result.DistinctlyNamed) :
    (ofResults results).DistinctlyNamed := by
  rcases results with _ | ⟨first, _ | ⟨second, rest⟩⟩
  · exact .list each
  · exact each first List.mem_cons_self
  · exact .list each

theorem legible_ofText? (text : Option String) : (ofText? text).Legible 0 := by
  cases text with
  | none => exact ⟨.null, Nat.le_refl 0⟩
  | some text => exact legible_text text

theorem legible_list {bound : Nat} {items : List Value}
    (each : ∀ item ∈ items, item.Legible bound) : (Value.list items).Legible (bound + 1) := by
  refine ⟨.list fun item member => (each item member).encodable, ?_⟩
  rw [toJson, itemsToJson_eq_map, Json.depth]
  exact Nat.succ_le_succ (Json.itemsDepth_le (List.forall_mem_map.mpr fun item member =>
    (each item member).depth_le))

theorem legible_ofTexts (texts : List String) : (ofTexts texts).Legible 1 :=
  legible_list (List.forall_mem_map.mpr fun text _ => legible_text text)

theorem Legible.ofResults {bound : Nat} {results : List Value}
    (each : ∀ result ∈ results, result.Legible bound) :
    (ofResults results).Legible (bound + 1) := by
  rcases results with _ | ⟨first, _ | ⟨second, rest⟩⟩
  · exact legible_list each
  · exact (each first List.mem_cons_self).mono (Nat.le_succ bound)
  · exact legible_list each

/-- JSON values of free form become legible unless a number of theirs does not fit. -/
theorem legible_ofJson_sorted {json : Json} (fit : json.EachNumber Json.Number.FitsSigned) :
    (ofJson json.sorted).Legible json.depth := by
  induction fit with
  | null => exact ⟨.null, Nat.le_refl 0⟩
  | bool value => exact ⟨.bool value, Nat.le_refl 0⟩
  | @number value fits =>
      cases value with
      | int value =>
          have greatest : (greatestInt : Int) = Int.pow 2 63 - 1 := rfl
          have small : value ≤ greatestInt := by
            have := fits.2
            omega
          rw [Json.sorted, ofJson, if_pos small]
          exact ⟨.int fits.1 fits.2, Nat.le_refl 0⟩
      | float value => exact fits.elim
  | string value => exact legible_text value
  | @array items _ ih =>
      rw [Json.sorted, ofJson, ofItems_eq_map, Json.sortedItems_eq_map, List.map_map]
      exact legible_list (List.forall_mem_map.mpr fun item member =>
        (ih item member).mono (Json.depth_le_itemsDepth member))
  | @object members _ ih =>
      rw [Json.sorted, ofJson, ofMembers_eq_map]
      refine legible_ofRecord (List.forall_mem_map.mpr fun member listed => ?_)
      have given := Json.mem_of_mem_sortMembers listed
      rw [Json.sortedMembers_eq_map] at given
      obtain ⟨source, member, rfl⟩ := List.mem_map.mp given
      exact (ih source member).mono (Json.depth_le_membersDepth member)

end Value

section Manual

variable {property : Json.Number → Prop}

theorem Parameter.eachNumber_toJson (parameter : Parameter) :
    parameter.toJson.EachNumber property := by
  cases standard : parameter.standard <;> simp [toJson, standard]

theorem OperationEntry.eachNumber_toJson (entry : OperationEntry) :
    entry.toJson.EachNumber property := by
  simp [toJson, Json.ofStrings, Parameter.eachNumber_toJson]

theorem Manual.eachNumber_toJson {manual : Manual}
    (each : ∀ entry ∈ manual.exitStatuses, property (.int entry.code)) :
    manual.toJson.EachNumber property := by
  have texts (values : List String) : (Json.ofStrings values).EachNumber property := by
    simp [Json.ofStrings]
  have operations : (Json.array (manual.operations.map OperationEntry.toJson)).EachNumber
      property :=
    .array (List.forall_mem_map.mpr fun entry _ => entry.eachNumber_toJson)
  have presets : (Json.object (manual.presets.map fun preset =>
      (preset.1, .ofStrings preset.2))).EachNumber property :=
    .object (List.forall_mem_map.mpr fun preset _ => texts preset.2)
  have statuses : (Json.array (manual.exitStatuses.map ExitStatusEntry.toJson)).EachNumber
      property := by
    simpa [ExitStatusEntry.toJson, Json.ofInt] using each
  refine .object ?_
  simp only [List.forall_mem_cons]
  exact ⟨.string _, operations, texts _, presets, .string _, texts _, texts _, statuses, by simp⟩

theorem Manual.legible_current : (Value.ofJson current.toJson.sorted).Legible 5 := by
  have numbers : ∀ entry ∈ current.exitStatuses, Json.Number.FitsSigned (.int entry.code) := by
    refine List.forall_mem_map.mpr fun status _ => ?_
    cases status <;> exact ⟨by decide, by decide⟩
  have depth : current.toJson.depth ≤ 5 := by decide
  exact (Value.legible_ofJson_sorted (eachNumber_toJson numbers)).mono depth

end Manual

namespace Field

theorem legible_subtaskRecord (subtask : Issue) :
    (Value.ofRecord (subtaskRecord subtask)).Legible 1 := by
  unfold subtaskRecord
  split
  · rename_i statusName _
    rw [← Record.ofList_concat]
    refine Value.legible_ofRecord ?_
    simp [Value.legible_text, Value.legible_ofText?]
  · refine Value.legible_ofRecord ?_
    simp [Value.legible_text, Value.legible_ofText?]

theorem legible_of_value? {field : Field} {issue : Issue} {value : Value}
    (shown : field.value? issue = some value) : value.Legible 2 := by
  cases field with
  | key =>
      cases shown
      exact (Value.legible_text _).mono (by decide)
  | labels =>
      cases shown
      exact (Value.legible_ofTexts _).mono (by decide)
  | subtasks =>
      rw [value?] at shown
      split at shown
      · cases shown
      · cases shown
        exact Value.legible_list (List.forall_mem_map.mpr fun subtask _ =>
          legible_subtaskRecord subtask)
  | _ =>
      cases shown
      exact (Value.legible_ofText? _).mono (by decide)

end Field

theorem Selection.legible_project (selection : Selection) (issue : Issue) :
    (Value.ofRecord (selection.project issue)).Legible 3 := by
  refine Value.legible_ofRecord fun entry member => ?_
  obtain ⟨field, -, named⟩ := List.mem_filterMap.mp member
  obtain ⟨value, shown, rfl⟩ := Option.map_eq_some_iff.mp named
  exact Field.legible_of_value? shown

namespace Task

/-- Any answers will do. -/
abbrev AnyAnswer (call : Call) (_ : call.Answer) : Prop := True

theorem legible_showIssues (selection : Selection) (issues : List Issue) :
    (Handler.showIssues selection issues).Legible 4 :=
  Value.legible_list (List.forall_mem_map.mpr fun issue _ => selection.legible_project issue)

theorem boardPlan_ensures (board : Option UInt64) :
    (boardPlan board).Ensures AnyAnswer fun entries =>
      ∀ entry ∈ entries, entry.2.Legible 1 := by
  cases board with
  | none => exact .done (by simp)
  | some id => exact .ask fun board _ => .done (legible_boardEntries board)

theorem plan_ensures (task : Task) : task.plan.Ensures AnyAnswer (Value.Legible 5) := by
  cases task with
  | get key selection =>
      exact .ask fun issue _ => .done ((selection.legible_project issue).mono (by decide))
  | list criteria order window selection =>
      exact .ask fun issues _ => .done ((legible_showIssues selection _).mono (by decide))
  | count criteria =>
      refine .ask fun issues _ => .done ?_
      have counted : (Value.ofRecord (.ofList
          [("count", .ofNat (issues.filter criteria.admits).length)])).Legible 1 :=
        Value.legible_ofRecord (by simp [Value.legible_ofNat])
      exact counted.mono (by decide)
  | summary project board =>
      refine (projectPlan_ensures project).bind fun ofProject shallow => ?_
      refine (boardPlan_ensures board).bind fun ofBoard alsoShallow => .done ?_
      have whole : (Value.ofRecord (.ofList (ofProject ++ ofBoard))).Legible 2 :=
        Value.legible_ofRecord (List.forall_mem_append.mpr ⟨shallow, alsoShallow⟩)
      exact whole.mono (by decide)
  | search text selection =>
      exact .ask fun issues _ => .done ((legible_showIssues selection issues).mono (by decide))
  | schema => exact .done Manual.legible_current

end Task

section Runs

variable {State : Type} {answer : (call : Call) → StateM State call.Outcome} {scope : Scope}

theorem Plan.Ensures.of_run {Result : Type} {Good : Result → Prop} {plan : Plan Result}
    (ensures : plan.Ensures Task.AnyAnswer Good) {before after : State} {result : Result}
    (returned : Id.run ((plan.run answer).run before) = (.ok result, after)) : Good result := by
  induction ensures generalizing before with
  | done good =>
      cases returned
      exact good
  | @ask call next following ih =>
      cases answered : Id.run ((answer call).run before) with
      | mk outcome between =>
          cases outcome with
          | error cause => simp [Plan.run, answered] at returned
          | ok found =>
              have ran : Id.run (((next found).run answer).run between) = (.ok result, after) := by
                simpa [Plan.run, answered] using returned
              exact ih found trivial ran

theorem Statement.legible_of_execute {statement : Statement} {before after : State} {value : Value}
    (returned : Id.run ((statement.execute answer scope).run before) = (.ok value, after)) :
    value.Legible 5 := by
  cases judged : statement.task scope with
  | error verdict =>
      rw [execute_refused judged] at returned
      cases returned
  | ok task =>
      rw [execute_accepted judged, StateT.run_map, Id.run_map] at returned
      cases ran : Id.run ((task.plan.run answer).run before) with
      | mk outcome between =>
          rw [ran] at returned
          cases outcome with
          | error cause => cases returned
          | ok result =>
              cases returned
              exact task.plan_ensures.of_run ran

theorem Query.legible_of_execute {query : Query} {before after : State} {results : List Value}
    (returned : Id.run ((query.execute answer scope).run before) = (.ok results, after)) :
    ∀ result ∈ results, result.Legible 5 := by
  have matched := (forall₂_of_executeStatements returned).flip.imp
    fun result statement ⟨_, _, alone⟩ =>
      And.intro (Statement.legible_of_execute alone) trivial
  exact ((List.forall₂_and_left _ _).mp matched).1

end Runs

theorem Field.isSome_value?_iff {field : Field} {issue : Issue} :
    (field.value? issue).isSome = true ↔ field ≠ .subtasks ∨ issue.details.subtasks ≠ [] := by
  cases field with
  | subtasks => cases subtasks : issue.details.subtasks <;> simp [value?, subtasks]
  | _ => simp [value?]

theorem Selection.keys_project (selection : Selection) (issue : Issue) :
    (selection.project issue).keys =
      ((Field.all.filter selection.includes).filter fun field =>
        field ≠ .subtasks ∨ issue.details.subtasks ≠ []).map Field.name := by
  rw [Record.keys, entries_project, Field.names_entries, fields]
  refine congrArg _ (List.filter_congr fun field _ => ?_)
  rw [Bool.eq_iff_iff, decide_eq_true_iff, Field.isSome_value?_iff]

/-- Where names stand once: in a record, which is the map its insertions make up, in every record
inside a value that stands for JSON or that an operation returns, and in every object of the text
that is written of such values.  A projection names the chosen fields in their order, but for
subtasks where there are none. -/
structure NamesStandOnce {State : Type} (answer : (call : Call) → StateM State call.Outcome)
    (scope : Scope) : Prop where
  collects (inserted : List (String × Value)) : (Record.ofList inserted).Collects inserted
  ofJson (json : Json) : (Value.ofJson json).DistinctlyNamed
  ofStatement {statement : Statement} {before after : State} {value : Value}
    (returned : Id.run ((statement.execute answer scope).run before) = (.ok value, after)) :
    value.DistinctlyNamed
  ofQuery {query : Query} {before after : State} {results : List Value}
    (returned : Id.run ((query.execute answer scope).run before) = (.ok results, after)) :
    ∀ result ∈ results, result.DistinctlyNamed
  written {results : List Value} (each : ∀ result ∈ results, result.DistinctlyNamed) :
    (Value.ofResults results).toJson.DistinctlyNamed
  rendered (results : List Value) :
    renderResults results = (Value.ofResults results).toJson.pretty ++ "\n"
  readBack {query : Query} {before after : State} {results : List Value}
    (returned : Id.run ((query.execute answer scope).run before) = (.ok results, after)) :
    Json.Source.ofText? (renderResults results) = some (Value.ofResults results).toJson.toSource
  projected (selection : Selection) (issue : Issue) :
    (selection.project issue).keys =
      ((Field.all.filter selection.includes).filter fun field =>
        field ≠ .subtasks ∨ issue.details.subtasks ≠ []).map Field.name

/-- With every service and in every scope names stand once. -/
theorem Query.names_stand_once {State : Type} (answer : (call : Call) → StateM State call.Outcome)
    (scope : Scope) : NamesStandOnce answer scope where
  collects := Record.collects_ofList
  ofJson := Value.distinctlyNamed_ofJson
  ofStatement returned := (Statement.legible_of_execute returned).encodable.distinctlyNamed
  ofQuery returned result member :=
    (legible_of_execute returned result member).encodable.distinctlyNamed
  written each := (Value.DistinctlyNamed.ofResults each).toJson
  rendered results := by
    rw [Value.renderResults_eq, String.ofList_append]
    rfl
  readBack returned := by
    have each := legible_of_execute returned
    have shallow := (Value.Legible.ofResults each).depth_le.trans (by decide : 5 + 1 ≤ 127)
    exact Value.sourceOfText?_renderResults (fun result member => (each result member).encodable)
      shallow
  projected := Selection.keys_project

def parentOfOne : Store where
  issues := [{
    key := "A-1"
    details.subtasks := [{ key := "A-2", details.status := some { name := "Open" } }] }]

def getParent : Statement := ⟨"get", [⟨none, "A-1"⟩], some ["subtasks", "key"]⟩

def parentShown : Value :=
  .record [("key", .text "A-1"), ("subtasks", .list [
    .record [("key", .text "A-2"), ("summary", .null), ("status", .text "Open")]])]

def repeatedName : List (String × Value) := [("b", .int 1), ("a", .null), ("b", .int 2)]

/-- A name that is inserted again keeps its place and takes the later value, and a parent is shown
with its subtask, which has a key and a status of its own. -/
theorem Query.repeated_names_stand_once :
    ((Record.ofList repeatedName).keys = ["b", "a"] ∧
      (Record.ofList repeatedName).get? "b" = some (.int 2) ∧
      (Record.ofList repeatedName).contains "c" = false ∧
      (Record.ofList repeatedName).size = 2) ∧
    (Value.ofJson (.object [("x", .null), ("x", .object [("x", .null)])])).DistinctlyNamed ∧
    (getParent.logged parentOfOne.service {} = (.ok parentShown, [.issue "A-1" ["subtasks"]]) ∧
      parentShown.DistinctlyNamed) ∧
    (Query.logged parentOfOne.service {} ⟨[getParent, getParent]⟩ =
        (.ok [parentShown, parentShown], [.issue "A-1" ["subtasks"], .issue "A-1" ["subtasks"]]) ∧
      Json.Source.ofText? (renderResults [parentShown, parentShown]) =
        some (Json.array [parentShown.toJson, parentShown.toJson]).toSource ∧
      renderResults [parentShown, parentShown] =
        (Json.array [parentShown.toJson, parentShown.toJson]).pretty ++ "\n") ∧
    (Selection.project ⟨[.subtasks, .status, .key], false⟩ {}).keys = ["key", "status"] := by
  have once := names_stand_once parentOfOne.service.logged {}
  have handled : getParent.handler {} = .ask (.issue "A-1" ["subtasks"]) fun issue =>
      .done (.ofRecord (Selection.project ⟨[.subtasks, .key], false⟩ issue)) := rfl
  have returned : getParent.logged parentOfOne.service {} =
      (.ok parentShown, [.issue "A-1" ["subtasks"]]) := by
    simp only [Statement.logged, Statement.execute, handled, Handler.run]
    rfl
  have bothReturned : Query.logged parentOfOne.service {} ⟨[getParent, getParent]⟩ =
      (.ok [parentShown, parentShown],
        [.issue "A-1" ["subtasks"], .issue "A-1" ["subtasks"]]) := by
    simp only [Query.logged, Query.execute, executeStatements, Statement.execute, handled,
      Handler.run]
    rfl
  have gathered := once.collects repeatedName
  refine ⟨⟨gathered.keys_eq.trans (by decide), ?_, ?_, gathered.size_eq.trans (by decide)⟩,
    once.ofJson _, ⟨returned, once.ofStatement returned⟩,
    ⟨bothReturned, once.readBack bothReturned, once.rendered _⟩, ?_⟩
  · exact (gathered.get?_iff _ _).mpr ⟨[("b", .int 1), ("a", .null)], [], rfl, by simp⟩
  · rw [← Bool.not_eq_true, gathered.contains_iff]
    decide
  · exact (once.projected _ _).trans (by decide)

end IssueQuery
