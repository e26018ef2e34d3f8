import IssueQuery.Query.Token

namespace IssueQuery

/-! What can be wrong with the text of a query. -/

/-- What a reader was looking for. -/
inductive Expectation where
  | separator
  | operationName
  | openParen
  | argument
  | value
  | closeParen
  | closeBrace
deriving DecidableEq, Repr, Inhabited

def Expectation.text : Expectation → String
  | .separator => "expected ';' or end of input"
  | .operationName => "expected operation name"
  | .openParen => "expected '('"
  | .argument => "expected argument"
  | .value => "expected value after '='"
  | .closeParen => "expected ')'"
  | .closeBrace => "expected '\x7d' to close projection"

inductive SyntaxCause where
  | unexpectedCharacter (character : Char)
  | unterminatedText
  /-- Something else was found; nothing at all stands for the end of the text. -/
  | unmet (expected : Expectation) (found : Option Token)
  | emptyQuery
  | unknownOperation (name : String)
  | unknownField (name : String)
  | emptyProjection
deriving DecidableEq, Repr, Inhabited

def SyntaxCause.message : SyntaxCause → String
  | .unexpectedCharacter character =>
      "unexpected character '" ++ String.singleton character ++ "'"
  | .unterminatedText => "unterminated string literal"
  | .unmet expected found =>
      expected.text ++ ", found " ++ (found.map Token.describe).getD describeEnd
  | .emptyQuery => "empty query, found " ++ describeEnd
  | .unknownOperation name => "unknown operation '" ++ name ++ "'"
  | .unknownField name => "unknown field '" ++ name ++ "'"
  | .emptyProjection => "empty projection"

/-- Where a text stops being a query: the cause, the position of the offending
piece of text, and that piece. -/
structure SyntaxError where
  cause : SyntaxCause
  position : Nat
  lexeme : String
deriving DecidableEq, Repr, Inhabited

end IssueQuery
