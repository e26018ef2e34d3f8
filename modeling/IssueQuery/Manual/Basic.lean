import IssueQuery.Failure.Code
import IssueQuery.Field.Selection
import IssueQuery.Json.Decode
import IssueQuery.Operation.Documentation

namespace IssueQuery

/-! The manual: a description of the query language for other programs. -/

structure OperationEntry where
  name : String
  description : String
  parameters : List Parameter
  examples : List String
deriving DecidableEq, Repr, Inhabited

structure ExitStatusEntry where
  code : Int
  description : String
deriving DecidableEq, Repr, Inhabited

structure Manual where
  version : String
  operations : List OperationEntry
  fields : List String
  /-- The fields of each preset, in ascending order of the presets' names. -/
  presets : List (String × List String)
  standardPreset : String
  sortable : List String
  /-- The arguments by which `list` and `count` filter. -/
  filterable : List String
  exitStatuses : List ExitStatusEntry
deriving DecidableEq, Repr, Inhabited

def OperationEntry.ofOperation (operation : Operation) : OperationEntry :=
  ⟨operation.name, operation.description, operation.parameters, operation.examples⟩

def ExitStatusEntry.ofExitStatus (status : ExitStatus) : ExitStatusEntry :=
  ⟨status.number, status.description⟩

namespace Manual

def toolVersion : String := "0.1.0"

def current : Manual where
  version := toolVersion
  operations := Operation.all.map .ofOperation
  fields := Field.all.map Field.name
  presets := Json.sortMembers
    (Preset.all.map fun preset => (preset.name, preset.fields.map Field.name))
  standardPreset := Preset.standard.name
  sortable := Field.sortable.map Field.name
  filterable := ["project", "type", "status", "assignee", "priority"]
  exitStatuses := ExitStatus.all.map .ofExitStatus

end Manual

open Json Json.Source

namespace Parameter

def toJson (parameter : Parameter) : Json :=
  .object
    ([("name", Json.string parameter.name), ("type", .string parameter.type),
        ("optional", .bool parameter.isOptional)] ++
      (parameter.standard.map fun value => ("default", Json.string value)).toList ++
      [("description", .string parameter.description)])

def ofSource? (source : Source) : Option Parameter := do
  let fields ← source.fields? ["name", "type", "optional", "default", "description"]
  return {
    name := ← required? fields "name" string?
    type := ← required? fields "type" string?
    isOptional := ← required? fields "optional" bool?
    standard := ← fieldD? fields "default" (optional? string?) none
    description := ← required? fields "description" string? }

end Parameter

namespace OperationEntry

def toJson (entry : OperationEntry) : Json :=
  .object
    [("name", .string entry.name), ("description", .string entry.description),
      ("parameters", .array (entry.parameters.map Parameter.toJson)),
      ("examples", .ofStrings entry.examples)]

def ofSource? (source : Source) : Option OperationEntry := do
  let fields ← source.fields? ["name", "description", "parameters", "examples"]
  return {
    name := ← required? fields "name" string?
    description := ← required? fields "description" string?
    parameters := ← required? fields "parameters" (list? Parameter.ofSource?)
    examples := ← required? fields "examples" (list? string?) }

end OperationEntry

namespace ExitStatusEntry

def toJson (entry : ExitStatusEntry) : Json :=
  .object [("code", .ofInt entry.code), ("description", .string entry.description)]

def ofSource? (source : Source) : Option ExitStatusEntry := do
  let fields ← source.fields? ["code", "description"]
  return {
    code := ← required? fields "code" int32?
    description := ← required? fields "description" string? }

end ExitStatusEntry

namespace Manual

def toJson (manual : Manual) : Json :=
  .object
    [("version", .string manual.version),
      ("operations", .array (manual.operations.map OperationEntry.toJson)),
      ("fields", .ofStrings manual.fields),
      ("presets", .object (manual.presets.map fun (name, fields) => (name, .ofStrings fields))),
      ("default_preset", .string manual.standardPreset),
      ("sortable", .ofStrings manual.sortable),
      ("filterable", .ofStrings manual.filterable),
      ("exit_codes", .array (manual.exitStatuses.map ExitStatusEntry.toJson))]

def fieldNames : List String :=
  ["version", "operations", "fields", "presets", "default_preset", "sortable", "filterable",
    "exit_codes"]

/-- Decodes a manual, of which no part may be missing. -/
def ofSource? (source : Source) : Option Manual := do
  let fields ← source.fields? fieldNames
  return {
    version := ← required? fields "version" string?
    operations := ← required? fields "operations" (list? OperationEntry.ofSource?)
    fields := ← required? fields "fields" (list? string?)
    presets := ← required? fields "presets" (map? (list? string?))
    standardPreset := ← required? fields "default_preset" string?
    sortable := ← required? fields "sortable" (list? string?)
    filterable := ← required? fields "filterable" (list? string?)
    exitStatuses := ← required? fields "exit_codes" (list? ExitStatusEntry.ofSource?) }

end Manual

end IssueQuery
