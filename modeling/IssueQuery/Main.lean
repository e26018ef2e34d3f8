import IssueQuery.Command.Arguments
import IssueQuery.Command.Run
import IssueQuery.Failure.Instant
import Std.Time.DateTime.Timestamp

namespace IssueQuery

/-! The program: arguments, environment, files and clock of the machine it runs
on. -/

/-- The number of an error, which may come with a sign in front. -/
def errorNumber (code : UInt32) : Nat :=
  if code < 0x80000000 then code.toNat else (0 - code).toNat

def describe : IO.Error → String
  | .alreadyExists _ code details => described details code
  | .inappropriateType _ code details => described details code
  | .invalidArgument _ code details => described details code
  | .noFileOrDirectory _ code details => described details code
  | .noSuchThing _ code details => described details code
  | .permissionDenied _ code details => described details code
  | .resourceExhausted _ code details => described details code
  | .userError text => text
  | other => toString other
where
  described (details : String) (code : UInt32) : String :=
    match errorNumber code with
    | 2 => Disk.noEntry
    | 13 => Disk.noPermission
    | 17 => Disk.entryExists
    | 20 => Disk.noDirectory
    | 21 => Disk.isDirectory
    | 36 => Disk.nameTooLong
    | number => details ++ " (os error " ++ toString number ++ ")"

def attempt {α : Type} (action : IO α) : IO (Except String α) := do
  try return .ok (← action)
  catch error => return .error (describe error)

/-- The text of a file, or nothing if the path leads nowhere. -/
def readText (path : String) : IO (Except String (Option String)) := do
  try
    match String.fromUTF8? (← IO.FS.readBinFile path) with
    | some text => return .ok (some text)
    | none => return .error "stream did not contain valid UTF-8"
  catch
    | error =>
        let detail := describe error
        return if [Disk.noEntry, Disk.noDirectory, Disk.nameTooLong].contains detail then .ok none
          else .error detail

/-- The files of the machine, and no network: every service is reported to be out
of reach. -/
def machine : Host IO where
  disk := {
    read := readText
    createDirectory := fun path => attempt (IO.FS.createDirAll path)
    write := fun path text => attempt (IO.FS.writeFile path text) }
  transport := {
    exchange := fun request =>
      return match request.fault? with
        | none => .unreachable "no network"
        | some fault => .unsendable fault
    pause := fun seconds => IO.sleep (seconds * 1000).toUInt32 }
  arithmetic := .checked
  pages := Nat.pow 2 64

def terminal : Console IO := ⟨IO.print, IO.eprint⟩

def usage : String :=
  "Usage: jira-mgmt [--project <KEY>] [--board <ID>] [--config <PATH>] [--json-errors] <COMMAND>\n" ++
    "\n" ++
    "Commands:\n" ++
    "  q <QUERY>\n" ++
    "  schema [--json-schema]\n" ++
    "  config show\n" ++
    "  config set-project <KEY>\n" ++
    "  config set-board <ID>\n" ++
    "  config set-instance <URL> [--email <EMAIL>] [--instance-type cloud|server] " ++
    "[--auth-type basic|bearer]\n" ++
    "  version\n"

/-- The entries that commands look at. -/
def variableNames : List String :=
  [Settings.tokenVariable, Failure.settingsVariable, "XDG_CONFIG_HOME", "HOME"]

def program (arguments : List String) : IO (Except Halt ExitStatus) := do
  let entries ← variableNames.filterMapM fun name => do
    return (← IO.getEnv name).map (name, ·)
  let value (name : String) : Option String := List.lookup name entries
  match CommandLine.ofArguments (value Failure.settingsVariable) arguments with
  | .error .helpAsked =>
      IO.print usage
      return .ok .success
  | .error _ =>
      IO.eprint usage
      return .ok .usage
  | .ok line =>
      let now := (← Std.Time.Timestamp.now).toNanosecondsSinceUnixEpoch.val
      let environment := Environment.ofVariables value (Instant.text now.toNat)
      (line.perform machine terminal environment).run

end IssueQuery

def main (arguments : List String) : IO UInt32 := do
  let ended ← IssueQuery.program arguments
  return ((IssueQuery.exitNumber? ended).getD 1).toUInt32
