import IssueQuery.Json.Value

namespace IssueQuery.Manual

/-! A JSON Schema of manuals. -/

def describe (description : String) (schema : List (String × Json)) : Json :=
  .object
    ((if description = "" then [] else [("description", Json.string description)]) ++ schema)

def ofType (type : String) : List (String × Json) := [("type", .string type)]

def nullableText : List (String × Json) := [("type", .ofStrings ["string", "null"])]

def listOf (items : List (String × Json)) : List (String × Json) :=
  [("type", .string "array"), ("items", .object items)]

def mapTo (values : List (String × Json)) : List (String × Json) :=
  [("type", .string "object"), ("additionalProperties", .object values)]

def reference (name : String) : List (String × Json) :=
  [("$ref", .string ("#/definitions/" ++ name))]

/-- An object with given properties, in ascending order of names. -/
def objectWith (required : List String) (properties : List (String × Json)) :
    List (String × Json) :=
  [("type", .string "object"), ("required", .ofStrings required),
    ("properties", .object properties)]

def texts : List (String × Json) := listOf (ofType "string")

def exitStatusSchema : Json :=
  .object (objectWith ["code", "description"]
    [("code", .object [("type", .string "integer"), ("format", .string "int32")]),
      ("description", describe "" (ofType "string"))])

def operationSchema : Json :=
  .object (objectWith ["description", "examples", "name", "parameters"]
    [("description", describe "" (ofType "string")),
      ("examples", describe "" texts),
      ("name", describe "" (ofType "string")),
      ("parameters", describe "" (listOf (reference "ParameterDoc")))])

def parameterSchema : Json :=
  .object (objectWith ["description", "name", "optional", "type"]
    [("default", describe "" nullableText),
      ("description", describe "" (ofType "string")),
      ("name", describe "" (ofType "string")),
      ("optional", describe "" (ofType "boolean")),
      ("type", describe "string, int, or asc|desc" (ofType "string"))])

def propertySchemas : List (String × Json) :=
  [("default_preset",
      describe "Preset used when a statement has no projection block" (ofType "string")),
    ("exit_codes", describe "" (listOf (reference "ExitCodeDoc"))),
    ("fields", describe "Projectable fields, in projection order" texts),
    ("filterable", describe "Named filters accepted by \x60list\x60 and \x60count\x60" texts),
    ("operations", describe "" (listOf (reference "OperationDoc"))),
    ("presets", describe "Preset name to member fields" (mapTo texts)),
    ("sortable", describe "Fields accepted by \x60sort_<field>\x60" texts),
    ("version", describe "Tool version" (ofType "string"))]

/-- The schema that every manual satisfies. -/
def jsonSchema : Json :=
  .object
    ([("$schema", Json.string "http://json-schema.org/draft-07/schema#"),
        ("title", .string "SchemaDocument"),
        ("description", .string "Complete description of the query language")] ++
      objectWith
        ["default_preset", "exit_codes", "fields", "filterable", "operations", "presets",
          "sortable", "version"]
        propertySchemas ++
      [("definitions", .object
        [("ExitCodeDoc", exitStatusSchema), ("OperationDoc", operationSchema),
          ("ParameterDoc", parameterSchema)])])

end IssueQuery.Manual
