import IssueQuery.Settings.Basic
import IssueQuery.Toml.Reader
import IssueQuery.Toml.Writer

namespace IssueQuery.Settings

/-! Settings as documents.

What is unset has no entry, entries stand in a fixed order, and entries of other
names say nothing. -/

/-- The entries of settings, in the order in which they are written. -/
def entries (settings : Settings) : Toml.Entries :=
  let members : List (String × Option Toml) :=
    [("instance_url", settings.address.map .string),
      ("email", settings.email.map .string),
      ("instance_type", settings.deployment.map fun deployment => .string deployment.name),
      ("auth_type", settings.auth.map fun auth => .string auth.name),
      ("active_project", settings.project.map .string),
      ("active_board", settings.board.map fun id => .integer id.toNat),
      ("timeout_secs", settings.timeout.map fun seconds => .integer seconds.toNat)]
  members.filterMap fun (name, value) => value.map (name, ·)

/-- The document of settings.  There is none if a number needs 64 bits without
sign. -/
def toText? (settings : Settings) : Option String := Toml.toText? settings.entries

def toJson (settings : Settings) : Json :=
  let members : List (String × Option Json) :=
    [("instance_url", settings.address.map .string),
      ("email", settings.email.map .string),
      ("instance_type", settings.deployment.map Deployment.toJson),
      ("auth_type", settings.auth.map AuthScheme.toJson),
      ("active_project", settings.project.map .string),
      ("active_board", settings.board.map fun id => .ofNat id.toNat),
      ("timeout_secs", settings.timeout.map fun seconds => .ofNat seconds.toNat)]
  .object (members.filterMap fun (name, value) => value.map (name, ·))

def text? : Toml → Option String
  | .string value => some value
  | _ => none

def word? : Toml → Option UInt64
  | .integer (.ofNat value) => if value < UInt64.size then some value.toUInt64 else none
  | _ => none

/-- A choice is written as its name, or as a table with its name as the only
entry and nothing in it. -/
def choice? {α : Type} (ofName? : String → Option α) : Toml → Option α
  | .string name => ofName? name
  | .table _ [(name, .table _ [])] => ofName? name
  | .table _ [(name, .array [])] => ofName? name
  | _ => none

/-- What an entry says, or that there is none of this name.  The result is
`none` if the entry cannot be understood. -/
def entry? {α : Type} (entries : Toml.Entries) (name : String) (decode : Toml → Option α) :
    Option (Option α) :=
  match entries.lookup name with
  | none => some none
  | some value => (decode value).map some

def ofEntries? (entries : Toml.Entries) : Option Settings := do
  return {
    address := ← entry? entries "instance_url" text?
    email := ← entry? entries "email" text?
    deployment := ← entry? entries "instance_type" (choice? Deployment.ofName?)
    auth := ← entry? entries "auth_type" (choice? AuthScheme.ofName?)
    project := ← entry? entries "active_project" text?
    board := ← entry? entries "active_board" word?
    timeout := ← entry? entries "timeout_secs" word? }

def ofText? (text : String) : Option Settings := (Toml.ofText? text).bind ofEntries?

end IssueQuery.Settings
