import IssueQuery.Decimal.Shortest
import IssueQuery.Json.Value

namespace IssueQuery.Json

/-! JSON text, without blanks or laid out over lines. -/

def hexDigit (value : Nat) : Char :=
  if value < 10 then Char.ofNat ('0'.toNat + value)
  else Char.ofNat ('a'.toNat + (value - 10))

/-- How a character stands inside a string.  The quotation mark, the backslash
and the controls below the space are escaped, all else stands for itself. -/
def escapeChar (character : Char) : List Char :=
  match character with
  | '"' => ['\\', '"']
  | '\\' => ['\\', '\\']
  | '\x08' => ['\\', 'b']
  | '\x0c' => ['\\', 'f']
  | '\n' => ['\\', 'n']
  | '\r' => ['\\', 'r']
  | '\t' => ['\\', 't']
  | other =>
      if other.toNat < 0x20 then
        ['\\', 'u', '0', '0', hexDigit (other.toNat / 16), hexDigit (other.toNat % 16)]
      else [other]

def writeString (value : String) : List Char :=
  '"' :: value.toList.flatMap escapeChar ++ ['"']

def Number.write : Number → List Char
  | .int value => (toString value).toList
  | .float value => value.text

def writeBool (value : Bool) : List Char :=
  if value then "true".toList else "false".toList

mutual

/-- The text of a value without any blank. -/
def writeCompact : Json → List Char
  | .null => "null".toList
  | .bool value => writeBool value
  | .number value => value.write
  | .string value => writeString value
  | .array [] => "[]".toList
  | .array (item :: rest) => '[' :: item.writeCompact ++ writeCompactItems rest
  | .object [] => "\x7b\x7d".toList
  | .object ((name, value) :: rest) =>
      '\x7b' :: writeString name ++ ':' :: value.writeCompact ++ writeCompactMembers rest

/-- What follows the first item of an array, the bracket included. -/
def writeCompactItems : List Json → List Char
  | [] => [']']
  | item :: rest => ',' :: item.writeCompact ++ writeCompactItems rest

/-- What follows the first member of an object, the brace included. -/
def writeCompactMembers : List (String × Json) → List Char
  | [] => ['\x7d']
  | (name, value) :: rest =>
      ',' :: writeString name ++ ':' :: value.writeCompact ++ writeCompactMembers rest

end

/-- The start of a line at a level of nesting: two blanks for each. -/
def newLine (level : Nat) : List Char := '\n' :: List.replicate (2 * level) ' '

mutual

/-- The text of a value with every item and member on a line of its own. -/
def writePretty (level : Nat) : Json → List Char
  | .null => "null".toList
  | .bool value => writeBool value
  | .number value => value.write
  | .string value => writeString value
  | .array [] => "[]".toList
  | .array (item :: rest) =>
      '[' :: newLine (level + 1) ++ writePretty (level + 1) item ++ writePrettyItems level rest
  | .object [] => "\x7b\x7d".toList
  | .object ((name, value) :: rest) =>
      '\x7b' :: newLine (level + 1) ++ writeString name ++ ':' :: ' ' ::
        writePretty (level + 1) value ++ writePrettyMembers level rest

/-- What follows the first item of an array that stands at `level`. -/
def writePrettyItems (level : Nat) : List Json → List Char
  | [] => newLine level ++ [']']
  | item :: rest =>
      ',' :: newLine (level + 1) ++ writePretty (level + 1) item ++ writePrettyItems level rest

/-- What follows the first member of an object that stands at `level`. -/
def writePrettyMembers (level : Nat) : List (String × Json) → List Char
  | [] => newLine level ++ ['\x7d']
  | (name, value) :: rest =>
      ',' :: newLine (level + 1) ++ writeString name ++ ':' :: ' ' ::
        writePretty (level + 1) value ++ writePrettyMembers level rest

end

def compact (value : Json) : String := String.ofList value.writeCompact

def pretty (value : Json) : String := String.ofList (writePretty 0 value)

end IssueQuery.Json
