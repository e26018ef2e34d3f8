import IssueQuery.Settings.Basic

namespace IssueQuery

/-! What the program can be told to do. -/

inductive Command where
  | query (text : String)
  /-- Describe the language of queries, or the form of that description. -/
  | manual (asJsonSchema : Bool)
  /-- Show the settings, after a change if one is given. -/
  | settings (change : Option Settings.Change)
  | version
deriving DecidableEq, Repr, Inhabited

def Command.name : Command → String
  | .query _ => "q"
  | .manual _ => "schema"
  | .settings _ => "config"
  | .version => "version"

structure CommandLine where
  command : Command
  project : Option String := none
  board : Option UInt64 := none
  /-- Where the settings are. -/
  settingsPath : Option String := none
  /-- Whether failures are told as JSON. -/
  jsonErrors : Bool := false
  verbose : Bool := false
deriving DecidableEq, Repr, Inhabited

/-- The project and the board that the command line names. -/
def CommandLine.scope (line : CommandLine) : Scope := ⟨line.project, line.board⟩

end IssueQuery
