namespace IssueQuery

/-! Filters that the service evaluates, and their text in its query language. -/

/-- Which issues to fetch.  A part that is not given restricts nothing. -/
structure Filter where
  project : Option String := none
  type : Option String := none
  status : Option String := none
deriving DecidableEq, Repr, Inhabited

namespace Filter

def ofProject (project : String) : Filter := { project := some project }

/-- A character inside a quoted value: the quotation mark and the backslash are
escaped by a backslash. -/
def escapeChar (character : Char) : List Char :=
  if character = '"' ∨ character = '\\' then ['\\', character] else [character]

def quote (value : String) : String :=
  String.ofList ('"' :: value.toList.flatMap escapeChar ++ ['"'])

/-- The clauses of a filter.  Type and status are quoted, the project is not. -/
def clauses (filter : Filter) : List String :=
  (filter.project.map ("project = " ++ ·)).toList ++
    (filter.type.map fun type => "issuetype = " ++ quote type).toList ++
    (filter.status.map fun status => "status = " ++ quote status).toList

def text (filter : Filter) : String := " AND ".intercalate filter.clauses

end Filter

end IssueQuery
