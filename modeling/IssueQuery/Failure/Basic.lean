import IssueQuery.Query.Fault
import IssueQuery.Service.Call

namespace IssueQuery

/-! Why a query has no result. -/

inductive QueryError where
  /-- The text is no query. -/
  | malformed (message : String) (position : Nat) (lexeme : String)
  /-- A statement cannot be carried out as it is written. -/
  | invalid (operation : String) (argument : Option String) (message : String)
  | internal (detail : String)
  | service (cause : ServiceError)
  | statement (operation : String) (index : Nat) (cause : QueryError)
deriving DecidableEq, Repr, Inhabited

namespace QueryError

def ofSyntax (error : SyntaxError) : QueryError :=
  .malformed error.cause.message error.position error.lexeme

/-- The innermost error, without the statements around it. -/
def root : QueryError → QueryError
  | .statement _ _ cause => cause.root
  | other => other

/-- How messages show a piece of text; an empty one stands for the end. -/
def describeLexeme (lexeme : String) : String :=
  if lexeme = "" then describeEnd else "'" ++ lexeme ++ "'"

def message : QueryError → String
  | .malformed message position lexeme =>
      "syntax error at position " ++ toString position ++ " near " ++ describeLexeme lexeme ++
        ": " ++ message
  | .invalid operation _ message => operation ++ ": " ++ message
  | .internal detail => "internal error: " ++ detail
  | .service cause => cause.message
  | .statement operation index cause =>
      "statement " ++ toString index ++ " (" ++ operation ++ ") failed: " ++ cause.message

/-- The messages from the outermost error to its innermost cause. -/
def messageChain : QueryError → List String
  | .statement operation index cause =>
      (QueryError.statement operation index cause).message :: cause.messageChain
  | other => [other.message]

end QueryError

end IssueQuery
