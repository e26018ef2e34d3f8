import IssueQuery.Failure.Basic
import IssueQuery.Field.Selection

namespace IssueQuery

/-! Why a statement is refused before anything is fetched. -/

inductive Refusal where
  /-- A name of a field that is none. -/
  | unknownField (name : String)
  | unknownArgument (name : String)
  | missingKey
  | secondKey
  | secondPositional
  | missingProject
  /-- Neither a project nor a board is known. -/
  | missingScope
  | badBoard (value : String)
  | missingSearch
  /-- A second argument that asks for an order. -/
  | secondSort (argument : String)
  | unsortable (argument field : String)
  | badOrder (argument value : String)
  | badCount (argument value : String)
deriving DecidableEq, Repr, Inhabited

namespace Refusal

/-- The argument that is to blame. -/
def argument? : Refusal → Option String
  | .unknownField _ => some "fields"
  | .unknownArgument name => some name
  | .missingKey => some "key"
  | .secondKey => some "key"
  | .secondPositional => none
  | .missingProject => some "project"
  | .missingScope => none
  | .badBoard _ => some "board"
  | .missingSearch => some "jql"
  | .secondSort argument => some argument
  | .unsortable argument _ => some argument
  | .badOrder argument _ => some argument
  | .badCount argument _ => some argument

def message (operation : String) : Refusal → String
  | .unknownField name => unknownFieldMessage name
  | .unknownArgument name => "unknown argument '" ++ name ++ "'"
  | .missingKey => "get requires an issue key argument"
  | .secondKey => "get takes exactly one issue key"
  | .secondPositional => operation ++ " accepts at most one positional argument"
  | .missingProject => operation ++ " requires a project (via argument or config)"
  | .missingScope => "summary requires a project or board (via argument or config)"
  | .badBoard value => "invalid board ID: " ++ value
  | .missingSearch => "search requires a jql argument"
  | .secondSort _ => "only one sort_<field> argument is allowed"
  | .unsortable _ field => "cannot sort by '" ++ field ++ "'"
  | .badOrder _ value => "sort order must be asc or desc, got '" ++ value ++ "'"
  | .badCount argument value =>
      argument ++ " must be a non-negative integer, got '" ++ value ++ "'"

def toError (operation : String) (refusal : Refusal) : QueryError :=
  .invalid operation refusal.argument? (refusal.message operation)

end Refusal

end IssueQuery
