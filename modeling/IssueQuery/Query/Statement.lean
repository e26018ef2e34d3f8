namespace IssueQuery

/-! Queries as trees. -/

/-- An argument, with a name or by its place. -/
structure Argument where
  name : Option String
  value : String
deriving DecidableEq, Repr, Inhabited

/-- One call of an operation. -/
structure Statement where
  operation : String
  arguments : List Argument
  /-- The names of the fields to show, if the statement says which. -/
  fields : Option (List String)
deriving DecidableEq, Repr, Inhabited

structure Query where
  statements : List Statement
deriving DecidableEq, Repr, Inhabited

namespace Statement

/-- The values of the arguments without a name. -/
def positional (statement : Statement) : List String :=
  statement.arguments.filterMap fun argument =>
    match argument.name with
    | none => some argument.value
    | some _ => none

def named (statement : Statement) : List (String × String) :=
  statement.arguments.filterMap fun argument => argument.name.map (·, argument.value)

/-- The value of a named argument; the last one counts. -/
def value? (statement : Statement) (name : String) : Option String :=
  statement.named.reverse.lookup name

end Statement

end IssueQuery
