import IssueQuery.Disk.Basic
import IssueQuery.Settings.Document

namespace IssueQuery

/-! Settings in a file. -/

/-- Why settings cannot be read or kept. -/
inductive SettingsError where
  | unreadable (path detail : String)
  /-- The file is no document, or does not hold settings. -/
  | malformed (path : String)
  /-- The directory of the file cannot be made. -/
  | uncreatable (directory detail : String)
  /-- A number is too large to be written. -/
  | outOfRange
  | unwritable (path detail : String)
deriving DecidableEq, Repr, Inhabited

/-- The messages from what failed to its cause. -/
def SettingsError.messageChain : SettingsError → List String
  | .unreadable path detail => ["Failed to read " ++ path, detail]
  | .malformed path => ["Failed to parse " ++ path, "TOML parse error"]
  | .uncreatable directory detail => ["Failed to create " ++ directory, detail]
  | .outOfRange => ["Failed to serialize config", "out-of-range value for u64 type"]
  | .unwritable path detail => ["Failed to write " ++ path, detail]

namespace Settings

variable {m : Type → Type} [Monad m]

/-- Reads the settings in a file.  Without a file nothing is set. -/
def load (disk : Disk m) (path : String) : m (Except SettingsError Settings) := do
  match ← disk.read path with
  | .error detail => return .error (.unreadable path detail)
  | .ok none => return .ok {}
  | .ok (some text) =>
      match ofText? text with
      | none => return .error (.malformed path)
      | some settings => return .ok settings

/-- Makes the directory of a file, if its path names one. -/
def prepare (disk : Disk m) (path : String) : m (Except SettingsError Unit) :=
  match Disk.directory? path with
  | none => return .ok ()
  | some directory => do
      match ← disk.createDirectory directory with
      | .error detail => return .error (.uncreatable directory detail)
      | .ok () => return .ok ()

def save (disk : Disk m) (path : String) (settings : Settings) :
    m (Except SettingsError Unit) := do
  match ← prepare disk path with
  | .error error => return .error error
  | .ok () =>
      match settings.toText? with
      | none => return .error .outOfRange
      | some text =>
          match ← disk.write path text with
          | .error detail => return .error (.unwritable path detail)
          | .ok () => return .ok ()

/-- Changes the settings in a file.  The result is what it holds then. -/
def update (disk : Disk m) (path : String) (change : Change) :
    m (Except SettingsError Settings) := do
  match ← load disk path with
  | .error error => return .error error
  | .ok settings =>
      let changed := settings.apply change
      match ← save disk path changed with
      | .error error => return .error error
      | .ok () => return .ok changed

end Settings

end IssueQuery
