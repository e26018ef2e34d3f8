import IssueQuery.Service.Deployment
import IssueQuery.Text.Numeral

namespace IssueQuery

/-! The shape of command lines.

A command line is a way down through levels: the program, a command, and for
settings what to do with them.  On each level there are slots for values, some
with a name and some, the operands, by their place. -/

/-- A place for a value on the command line. -/
inductive Slot where
  | project
  | board
  | settingsPath
  | jsonErrors
  | verbose
  | help
  | asJsonSchema
  | email
  | deployment
  | auth
  | query
  | key
  | id
  | address
deriving DecidableEq, Repr, Inhabited

/-- Why arguments are no command line. -/
inductive UsageError where
  | helpAsked
  | empty
  | missingCommand
  | unknownCommand (word : String)
  /-- An argument has no place here. -/
  | unexpected (argument : String)
  | repeated (slot : Slot)
  | missingValue (slot : Slot)
  /-- A value is none of those that its slot can have. -/
  | invalidChoice (slot : Slot) (value : String)
  | invalidNumber (slot : Slot) (value : String)
  /-- A slot without a value has been given one. -/
  | unneededValue (slot : Slot)
  | missingOperand (slot : Slot)
deriving DecidableEq, Repr, Inhabited

namespace Slot

/-- The name behind two hyphens. -/
def long? : Slot → Option String
  | project => some "project"
  | board => some "board"
  | settingsPath => some "config"
  | jsonErrors => some "json-errors"
  | verbose => some "verbose"
  | help => some "help"
  | asJsonSchema => some "json-schema"
  | email => some "email"
  | deployment => some "instance-type"
  | auth => some "auth-type"
  | query => none
  | key => none
  | id => none
  | address => none

/-- The letter behind one hyphen. -/
def short? : Slot → Option Char
  | verbose => some 'v'
  | help => some 'h'
  | _ => none

def takesValue : Slot → Bool
  | jsonErrors => false
  | verbose => false
  | help => false
  | asJsonSchema => false
  | _ => true

/-- The slots that are on every level. -/
def everywhere : List Slot := [project, board, settingsPath, jsonErrors, verbose, help]

def check (slot : Slot) (value : String) : Except UsageError Unit :=
  match slot with
  | board => checkNumber
  | id => checkNumber
  | settingsPath => if value = "" then .error (.missingValue slot) else .ok ()
  | deployment => checkChoice (Deployment.ofName? value).isSome
  | auth => checkChoice (AuthScheme.ofName? value).isSome
  | _ => .ok ()
where
  checkNumber : Except UsageError Unit :=
    if (Text.word? value).isSome then .ok () else .error (.invalidNumber slot value)
  checkChoice (known : Bool) : Except UsageError Unit :=
    if known then .ok () else .error (.invalidChoice slot value)

end Slot

inductive Level where
  | program
  | query
  | manual
  | settings
  | version
  | showSettings
  | setProject
  | setBoard
  | setService
deriving DecidableEq, Repr, Inhabited

namespace Level

/-- The word that leads to a level. -/
def word : Level → String
  | program => "jira-mgmt"
  | query => "q"
  | manual => "schema"
  | settings => "config"
  | version => "version"
  | showSettings => "show"
  | setProject => "set-project"
  | setBoard => "set-board"
  | setService => "set-instance"

def inner : Level → List Level
  | program => [query, manual, settings, version]
  | settings => [showSettings, setProject, setBoard, setService]
  | _ => []

/-- The word that asks for help where there are levels to choose from. -/
def helpWord : String := "help"

/-- The slot for the argument that stands for itself.  It must be filled. -/
def operand? : Level → Option Slot
  | query => some .query
  | setProject => some .key
  | setBoard => some .id
  | setService => some .address
  | _ => none

/-- The slots that have a name. -/
def named (level : Level) : List Slot :=
  match level with
  | manual => Slot.asJsonSchema :: Slot.everywhere
  | setService => [Slot.email, Slot.deployment, Slot.auth] ++ Slot.everywhere
  | _ => Slot.everywhere

def ofWord? (level : Level) (word : String) : Option Level :=
  level.inner.find? (·.word = word)

def ofLong? (level : Level) (name : String) : Option Slot :=
  level.named.find? (·.long? = some name)

def ofShort? (level : Level) (letter : Char) : Option Slot :=
  level.named.find? (·.short? = some letter)

end Level

end IssueQuery
