import IssueQuery.Json.Decode
import IssueQuery.Issue.Basic

namespace IssueQuery

/-! The JSON form of the resources. -/

open Json Json.Source

namespace IssueType

def ofSource? (source : Source) : Option IssueType := do
  let fields ← source.fields? ["id", "name", "subtask"]
  return {
    id := ← fieldD? fields "id" string? ""
    name := ← fieldD? fields "name" string? ""
    subtask := ← fieldD? fields "subtask" bool? false }

def toJson (type : IssueType) : Json :=
  .object [("id", .string type.id), ("name", .string type.name), ("subtask", .bool type.subtask)]

end IssueType

namespace Status

def ofSource? (source : Source) : Option Status := do
  let fields ← source.fields? ["id", "name"]
  return { id := ← fieldD? fields "id" string? "", name := ← fieldD? fields "name" string? "" }

def toJson (status : Status) : Json :=
  .object [("id", .string status.id), ("name", .string status.name)]

end Status

namespace Priority

def ofSource? (source : Source) : Option Priority := do
  let fields ← source.fields? ["id", "name"]
  return { id := ← fieldD? fields "id" string? "", name := ← fieldD? fields "name" string? "" }

def toJson (priority : Priority) : Json :=
  .object [("id", .string priority.id), ("name", .string priority.name)]

end Priority

namespace User

def ofSource? (source : Source) : Option User := do
  let fields ← source.fields? ["accountId", "displayName", "emailAddress"]
  return {
    accountId := ← fieldD? fields "accountId" string? ""
    displayName := ← fieldD? fields "displayName" string? ""
    emailAddress := ← fieldD? fields "emailAddress" string? "" }

def toJson (user : User) : Json :=
  .object
    [("accountId", .string user.accountId), ("displayName", .string user.displayName),
      ("emailAddress", .string user.emailAddress)]

end User

namespace Project

def ofSource? (source : Source) : Option Project := do
  let fields ← source.fields? ["id", "key", "name", "projectTypeKey"]
  return {
    id := ← fieldD? fields "id" string? ""
    key := ← fieldD? fields "key" string? ""
    name := ← fieldD? fields "name" string? ""
    typeKey := ← fieldD? fields "projectTypeKey" string? "" }

def toJson (project : Project) : Json :=
  .object
    [("id", .string project.id), ("key", .string project.key), ("name", .string project.name),
      ("projectTypeKey", .string project.typeKey)]

end Project

namespace Board

def ofSource? (source : Source) : Option Board := do
  let fields ← source.fields? ["id", "name", "type"]
  return {
    id := ← fieldD? fields "id" word? 0
    name := ← fieldD? fields "name" string? ""
    type := ← fieldD? fields "type" string? "" }

def toJson (board : Board) : Json :=
  .object
    [("id", .ofNat board.id.toNat), ("name", .string board.name), ("type", .string board.type)]

end Board

namespace IssueDetails

/-- The names under which the service knows the details, in order. -/
def fieldNames : List String :=
  ["summary", "description", "issuetype", "project", "status", "priority", "assignee",
    "reporter", "labels", "parent", "subtasks", "created", "updated"]

def ofSource? {Related : Type} (related? : Source → Option Related) (source : Source) :
    Option (IssueDetails Related) := do
  let fields ← source.fields? fieldNames
  return {
    summary := ← fieldD? fields "summary" (optional? string?) none
    description := ← fieldD? fields "description" (optional? Source.toJson?) none
    type := ← fieldD? fields "issuetype" (optional? IssueType.ofSource?) none
    project := ← fieldD? fields "project" (optional? Project.ofSource?) none
    status := ← fieldD? fields "status" (optional? Status.ofSource?) none
    priority := ← fieldD? fields "priority" (optional? Priority.ofSource?) none
    assignee := ← fieldD? fields "assignee" (optional? User.ofSource?) none
    reporter := ← fieldD? fields "reporter" (optional? User.ofSource?) none
    labels := ← fieldD? fields "labels" (list? string?) []
    parent := ← fieldD? fields "parent" (optional? related?) none
    subtasks := ← fieldD? fields "subtasks" (list? related?) []
    created := ← fieldD? fields "created" (optional? string?) none
    updated := ← fieldD? fields "updated" (optional? string?) none }

end IssueDetails

namespace Issue

/-- Decodes an issue whose related issues are nested at most `fuel` levels. -/
def decodeWithin? : Nat → Source → Option Issue
  | 0, _ => none
  | fuel + 1, source => do
      let fields ← source.fields? ["id", "key", "fields"]
      let id ← fieldD? fields "id" string? ""
      let key ← fieldD? fields "key" string? ""
      let details ← fieldD? fields "fields" (IssueDetails.ofSource? (decodeWithin? fuel)) {}
      return { id, key, details }

def ofSource? (source : Source) : Option Issue := decodeWithin? (source.depth + 1) source

mutual

def toJson : Issue → Json
  | ⟨id, key, details⟩ =>
      .object [("id", .string id), ("key", .string key), ("fields", detailsToJson details)]

def detailsToJson : IssueDetails Issue → Json
  | ⟨summary, description, type, project, status, priority, assignee, reporter, labels, parent,
      subtasks, created, updated⟩ =>
      .object
        [("summary", ofOption .string summary),
          ("description", description.getD .null),
          ("issuetype", ofOption IssueType.toJson type),
          ("project", ofOption Project.toJson project),
          ("status", ofOption Status.toJson status),
          ("priority", ofOption Priority.toJson priority),
          ("assignee", ofOption User.toJson assignee),
          ("reporter", ofOption User.toJson reporter),
          ("labels", ofStrings labels),
          ("parent", parentToJson parent),
          ("subtasks", .array (subtasksToJson subtasks)),
          ("created", ofOption .string created),
          ("updated", ofOption .string updated)]

def parentToJson : Option Issue → Json
  | none => .null
  | some issue => toJson issue

def subtasksToJson : List Issue → List Json
  | [] => []
  | issue :: rest => toJson issue :: subtasksToJson rest

end

end Issue

end IssueQuery
