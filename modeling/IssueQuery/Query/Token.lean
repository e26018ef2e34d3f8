import IssueQuery.Text.Blank

namespace IssueQuery

/-! Tokens of the query language and where they stand in a text.

Positions count bytes of the UTF-8 form of the text. -/

inductive Mark where
  | openParen
  | closeParen
  | openBrace
  | closeBrace
  | equals
  | comma
  | semicolon
deriving DecidableEq, Repr, Inhabited

namespace Mark

def all : List Mark :=
  [.openParen, .closeParen, .openBrace, .closeBrace, .equals, .comma, .semicolon]

def char : Mark → Char
  | .openParen => '('
  | .closeParen => ')'
  | .openBrace => '\x7b'
  | .closeBrace => '\x7d'
  | .equals => '='
  | .comma => ','
  | .semicolon => ';'

def ofChar? (character : Char) : Option Mark := all.find? (·.char = character)

end Mark

inductive Token where
  /-- A run of ASCII letters, digits, underscores, hyphens and points. -/
  | word (text : String)
  | mark (mark : Mark)
  /-- A text between quotation marks, by what it stands for. -/
  | quoted (text : String)
deriving DecidableEq, Repr, Inhabited

namespace Token

/-- The text of a token: what a word or a quoted text says, or the mark. -/
def text : Token → String
  | .word text => text
  | .mark sign => String.singleton sign.char
  | .quoted text => text

/-- How messages call a kind of token. -/
def describe : Token → String
  | .word _ => "identifier"
  | .mark sign => "'" ++ String.singleton sign.char ++ "'"
  | .quoted _ => "string"

end Token

/-- How messages call the end of the text. -/
def describeEnd : String := "end of input"

/-- A token and the position of its first character. -/
structure Located where
  token : Token
  position : Nat
deriving DecidableEq, Repr, Inhabited

def isWordChar (character : Char) : Bool :=
  character.isAlphanum || character == '_' || character == '-' || character == '.'

/-- The number of bytes of characters. -/
def byteLength : List Char → Nat
  | [] => 0
  | character :: rest => character.utf8Size + byteLength rest

end IssueQuery
