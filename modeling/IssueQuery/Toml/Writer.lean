import IssueQuery.Toml.Scalar
import IssueQuery.Toml.Text

namespace IssueQuery.Toml

/-! Writing settings files: one line for each entry, in the order given. -/

/-- Writes a value that stands behind its name.  Numbers of more than 64 bits
have no written form, and tables and arrays none on a line of their own. -/
def writeValue? : Toml → Option (List Char)
  | .string value => some (writeText value.toList)
  | .integer value => if isInteger64 value then some (toString value).toList else none
  | .boolean value => some (if value then "true" else "false").toList
  | _ => none

/-- Writes an entry whose name needs no quotation marks. -/
def writeEntry? (name : String) (value : Toml) : Option (List Char) :=
  (writeValue? value).map fun written => name.toList ++ " = ".toList ++ written ++ ['\n']

def writeEntries? : Entries → Option (List Char)
  | [] => some []
  | (name, value) :: rest =>
      match writeEntry? name value, writeEntries? rest with
      | some line, some lines => some (line ++ lines)
      | _, _ => none

/-- The document with given entries, if all of them can be written. -/
def toText? (entries : Entries) : Option String :=
  (writeEntries? entries).map String.ofList

end IssueQuery.Toml
