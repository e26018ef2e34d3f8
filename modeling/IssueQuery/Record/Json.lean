import IssueQuery.Json.Printer
import IssueQuery.Record.Basic

namespace IssueQuery

/-! Result values as JSON. -/

namespace Value

mutual

/-- The value a JSON value stands for.  Whole numbers above the greatest one
become binary64 numbers. -/
def ofJson : Json → Value
  | .null => .null
  | .bool value => .bool value
  | .number (.int value) =>
      if value ≤ greatestInt then .int value else .float (.ofWord value.toNat.toUInt64)
  | .number (.float value) => .float value
  | .string value => .text value
  | .array items => .list (ofItems items)
  | .object members => .record (Record.ofList (ofMembers members)).entries

def ofItems : List Json → List Value
  | [] => []
  | item :: rest => ofJson item :: ofItems rest

def ofMembers : List (String × Json) → List (String × Value)
  | [] => []
  | (name, value) :: rest => (name, ofJson value) :: ofMembers rest

end

mutual

def toJson : Value → Json
  | .null => .null
  | .bool value => .bool value
  | .int value => .number (.int value)
  | .float value => .number (.float value)
  | .text value => .string value
  | .list items => .array (itemsToJson items)
  | .record entries => .object (entriesToJson entries)

def itemsToJson : List Value → List Json
  | [] => []
  | item :: rest => toJson item :: itemsToJson rest

def entriesToJson : List (String × Value) → List (String × Json)
  | [] => []
  | (name, value) :: rest => (name, toJson value) :: entriesToJson rest

end

end Value

namespace Record

def toJson (record : Record) : Json := .object (Value.entriesToJson record.entries)

end Record

/-- The results of a batch as text: a single result stands alone, any other
number of results forms a list.  The text ends with a line break. -/
def renderResults (results : List Value) : String :=
  let json :=
    match results with
    | [single] => single.toJson
    | many => .array (Value.itemsToJson many)
  String.ofList (Json.writePretty 0 json ++ ['\n'])

end IssueQuery
