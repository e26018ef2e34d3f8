import IssueQuery.Command.Basic
import IssueQuery.Command.Failure
import IssueQuery.Manual.JsonSchema
import IssueQuery.Query.Execution

namespace IssueQuery

/-! Carrying out commands. -/

/-- What commands need of the machine they run on. -/
structure Host (m : Type → Type) where
  disk : Disk m
  transport : Transport m
  /-- How the program that runs there was built. -/
  arithmetic : Arithmetic
  /-- How many pages of a search are followed at most. -/
  pages : Nat

/-- Where a program writes. -/
structure Console (m : Type → Type) where
  /-- Writes a result in one piece. -/
  print : (text : String) → m Unit
  /-- Writes what the user should know. -/
  report : (text : String) → m Unit

structure Environment where
  token : Option String := none
  /-- The directory for settings of all programs. -/
  settingsDirectory : Option String := none
  timestamp : String
deriving DecidableEq, Repr, Inhabited

namespace Environment

def hasToken (environment : Environment) : Bool :=
  (environment.token.bind Text.nonblank?).isSome

/-- What the variables of an environment say.  The directory for settings has a
variable of its own, which must hold an absolute path; otherwise it is in the
home directory. -/
def ofVariables (lookup : String → Option String) (timestamp : String) : Environment where
  token := lookup Settings.tokenVariable
  settingsDirectory :=
    ((lookup "XDG_CONFIG_HOME").filter (·.toList.head? = some '/')).or
      (((lookup "HOME").filter (· ≠ "")).map (Disk.join · ".config"))
  timestamp := timestamp

/-- The file for settings where nothing else says which. -/
def settingsPath? (environment : Environment) : Option String :=
  environment.settingsDirectory.map fun directory =>
    Disk.join (Disk.join directory "jira-mgmt") "config.toml"

end Environment

namespace CommandLine

def settingsFile (line : CommandLine) (environment : Environment) : Except Failure String :=
  match line.settingsPath.or environment.settingsPath? with
  | none => .error .homeless
  | some path => .ok path

/-- What is shown of settings. -/
def settingsReport (environment : Environment) (path : String) (settings : Settings) : Json :=
  .object
    [("config", settings.toJson.sorted), ("path", .string path),
      ("token_set", .bool environment.hasToken)]

/-- What is told of a failure: one line, or JSON. -/
def diagnosis (line : CommandLine) (environment : Environment) (failure : Failure) : String :=
  if line.jsonErrors then
    (failure.report.envelope line.command.name environment.timestamp).pretty ++ "\n"
  else "Error: " ++ failure.message ++ "\n"

variable {m n : Type → Type} [Monad m]

/-- The client for the service in the settings.  Where they do not say how it is
run, it is asked. -/
def connect (host : Host m) (environment : Environment) (settings : Settings) :
    m (Except Failure (String × Client)) :=
  match settings.client environment.token with
  | .error advice => return .error (.advice advice)
  | .ok clientSettings =>
      match Client.ofSettings clientSettings with
      | .error error => return .error (.service error)
      | .ok client => do
          let client ←
            if settings.deployment.isNone then client.detect host.transport else pure client
          return .ok (clientSettings.base, client)

/-- The settings in a file, after a change if there is one. -/
def settle (host : Host m) (path : String) (change : Option Settings.Change) :
    m (Except SettingsError Settings) :=
  match change with
  | none => Settings.load host.disk path
  | some change => Settings.update host.disk path change

variable [Monad n] [MonadLiftT m n]

/-- Tells how to find out why a service does not answer.  JSON has no place for it. -/
def explain (console : Console n) (line : CommandLine) (address : String) (error : QueryError) :
    n Unit :=
  match error.root with
  | .service (.transport detail) =>
      if line.jsonErrors then pure ()
      else console.report (Advice.instanceUnreachable address detail).text
  | _ => pure ()

def runRemote (host : Host m) (console : Console n) (environment : Environment)
    (line : CommandLine) (query : Query) : ExceptT Halt n (Except Failure Unit) := do
  match line.settingsFile environment with
  | .error failure => return .error failure
  | .ok path =>
      match ← (Settings.load host.disk path : m _) with
      | .error error => return .error (.settings error)
      | .ok settings =>
          match ← (connect host environment settings : m _) with
          | .error failure => return .error failure
          | .ok (address, client) =>
              let scope := line.scope.or settings.scope
              let answer := client.answer host.arithmetic host.transport host.pages
              match ← ((query.execute answer scope).run : m _) with
              | .error halt => throw halt
              | .ok (.error error) =>
                  (line.explain console address error : n Unit)
                  return .error (.query error)
              | .ok (.ok values) =>
                  console.print (renderResults values)
                  return .ok ()

/-- Carries out a query.  Its text is read first, so that what needs no service
needs no settings either. -/
def runQuery (host : Host m) (console : Console n) (environment : Environment)
    (line : CommandLine) (text : String) : ExceptT Halt n (Except Failure Unit) :=
  match Query.parse text with
  | .error error => return .error (.query (.ofSyntax error))
  | .ok query =>
      if query.needsService then runRemote host console environment line query
      else
        match (query.execute (m := Id) Service.offline {}).run with
        | .error error => return .error (.query error)
        | .ok values => do
            console.print (renderResults values)
            return .ok ()

/-- Changes the settings, if there is a change, and shows them. -/
def runSettings (host : Host m) (console : Console n) (environment : Environment)
    (line : CommandLine) (change : Option Settings.Change) :
    ExceptT Halt n (Except Failure Unit) := do
  match line.settingsFile environment with
  | .error failure => return .error failure
  | .ok path =>
      match ← (settle host path change : m _) with
      | .error error => return .error (.settings error)
      | .ok settings =>
          console.print ((settingsReport environment path settings).pretty ++ "\n")
          return .ok ()

/-- Carries out a command. -/
def carryOut (host : Host m) (console : Console n) (environment : Environment)
    (line : CommandLine) : ExceptT Halt n (Except Failure Unit) :=
  match line.command with
  | .query text => runQuery host console environment line text
  | .manual asJsonSchema => do
      let shown := if asJsonSchema then Manual.jsonSchema else Manual.current.toJson
      console.print (shown.pretty ++ "\n")
      return .ok ()
  | .settings change => runSettings host console environment line change
  | .version => do
      console.print ("jira-mgmt " ++ Manual.toolVersion ++ "\n")
      return .ok ()

/-- Carries out a command and tells of its failure, unless it comes to no end. -/
def perform (host : Host m) (console : Console n) (environment : Environment)
    (line : CommandLine) : ExceptT Halt n ExitStatus := do
  match ← carryOut host console environment line with
  | .ok () => return .success
  | .error failure =>
      console.report (line.diagnosis environment failure)
      return failure.status

end CommandLine

/-- The number a process ends with, if it ends. -/
def exitNumber? : Except Halt ExitStatus → Option Nat
  | .ok status => some status.number
  | .error .overflow => some 101
  | .error .cutOff => none

end IssueQuery
