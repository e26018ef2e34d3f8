namespace IssueQuery

/-! The operations of the query language. -/

inductive Operation where
  | get
  | list
  | count
  | summary
  | search
  | schema
deriving DecidableEq, Repr, Inhabited

namespace Operation

/-- Every operation, in the order in which they are documented. -/
def all : List Operation := [.get, .list, .count, .summary, .search, .schema]

def name : Operation → String
  | .get => "get"
  | .list => "list"
  | .count => "count"
  | .summary => "summary"
  | .search => "search"
  | .schema => "schema"

def ofName? (name : String) : Option Operation := all.find? (·.name = name)

theorem name_of_ofName? {name : String} {operation : Operation}
    (found : ofName? name = some operation) : operation.name = name := by
  simpa using List.find?_some found

def isRemote (operation : Operation) : Bool := operation != .schema

end Operation

end IssueQuery
