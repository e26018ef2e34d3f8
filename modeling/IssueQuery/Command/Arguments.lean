import IssueQuery.Command.Basic
import IssueQuery.Command.Level

namespace IssueQuery

/-! Reading command lines from arguments. -/

/-- What has been read on one level. -/
structure Given where
  /-- The slots that are filled, with their values. -/
  values : List (Slot × String) := []
  /-- The slot to be filled next, and its value if that has been read. -/
  pending : Option (Slot × Option String) := none
deriving DecidableEq, Repr, Inhabited

namespace Given

def value? (given : Given) (slot : Slot) : Option String := given.values.lookup slot

/-- Fills the pending slot.  A slot is filled at most once, and only with a value
that it can have. -/
def settle (given : Given) : Except UsageError Given :=
  match given.pending with
  | none => .ok given
  | some (slot, none) => .error (.missingValue slot)
  | some (slot, some value) =>
      if (given.value? slot).isSome then .error (.repeated slot)
      else do
        slot.check value
        return { values := given.values ++ [(slot, value)] }

/-- Whether the next argument belongs to the pending slot. -/
def awaitsValue (given : Given) : Bool :=
  match given.pending with
  | some (_, none) => true
  | _ => false

def hasOperand (given : Given) (slot : Slot) : Bool :=
  (given.value? slot).isSome || (given.pending.map Prod.fst) == some slot

def fill (given : Given) (slot : Slot) (value : String) : Except UsageError Given := do
  let given ← given.settle
  { given with pending := some (slot, some value) }.settle

/-- Names a slot that takes no value. -/
def mark (given : Given) (slot : Slot) : Except UsageError Given :=
  if slot = .help then do
    let _ ← given.settle
    throw .helpAsked
  else given.fill slot ""

/-- Reads a name behind two hyphens, and the value behind an equals sign. -/
def readLong (given : Given) (level : Level) (body : List Char) : Except UsageError Given :=
  let name := String.ofList (body.takeWhile (· != '='))
  let attached := (body.dropWhile (· != '=')).tail?.map String.ofList
  match level.ofLong? name with
  | none => .error (.unexpected ("--" ++ String.ofList body))
  | some slot =>
      match slot.takesValue, attached with
      | true, some value => given.fill slot value
      | true, none => do
          let given ← given.settle
          return { given with pending := some (slot, none) }
      | false, some _ => .error (.unneededValue slot)
      | false, none => given.mark slot

/-- Reads letters behind one hyphen. -/
def readShort (given : Given) (level : Level) : List Char → Except UsageError Given
  | [] => .ok given
  | letter :: rest =>
      match level.ofShort? letter with
      | none => .error (.unexpected (String.ofList ['-', letter]))
      | some slot => do (← given.mark slot).readShort level rest

/-- Takes an argument that stands for itself.  `literal` says that it does so
whatever it looks like. -/
def readOperand (given : Given) (level : Level) (literal : Bool) (argument : String) :
    Except UsageError Given :=
  match level.operand?.filter (!given.hasOperand ·) with
  | some slot => do
      let given ← given.settle
      return { given with pending := some (slot, some argument) }
  | none =>
      if level.inner.isEmpty then .error (.unexpected argument)
      else if literal && ((level.ofWord? argument).isSome || argument = Level.helpWord) then
        .error (.unexpected argument)
      else .error (.unknownCommand argument)

/-- Completes a level.  `settingsPath` is what the environment says for the slot
of that name, and `isLast` that no word led further down. -/
def close (given : Given) (level : Level) (settingsPath : Option String) (isLast : Bool) :
    Except UsageError Given := do
  let given ← given.settle
  let implied := settingsPath.filter fun _ => (given.value? .settingsPath).isNone
  if let some path := implied then Slot.settingsPath.check path
  if isLast && !level.inner.isEmpty then
    throw (if given.values.isEmpty && implied.isNone then .empty else .missingCommand)
  match level.operand?.filter fun slot => (given.value? slot).isNone with
  | some slot => throw (.missingOperand slot)
  | none => return given

end Given

namespace Level

/-- What asking for help with some words comes to: they must lead down from a
level. -/
def helpError : Level → List String → UsageError
  | _, [] => .helpAsked
  | level, word :: rest =>
      match level.ofWord? word with
      | some next => next.helpError rest
      | none =>
          if word = helpWord && !level.inner.isEmpty && rest.isEmpty then .helpAsked
          else .unknownCommand word

/-- Reads the arguments on a level and on those below.  Each level that the
arguments reach is given with what was read there.  Behind two hyphens, where
`literal` holds, every argument stands for itself. -/
def read (settingsPath : Option String) (level : Level) (given : Given) (literal : Bool) :
    List String → Except UsageError (List (Level × Given))
  | [] => do return [(level, ← given.close level settingsPath true)]
  | argument :: rest =>
      if literal then do
        read settingsPath level (← given.readOperand level true argument) true rest
      else
        match level.ofWord? argument, given.awaitsValue with
        | some next, false => do
            let below ← read settingsPath next {} false rest
            return (level, ← given.close level settingsPath false) :: below
        | _, awaits =>
            if argument = helpWord && !level.inner.isEmpty && !awaits then
              .error (level.helpError rest)
            else
              match argument.toList with
              | ['-', '-'] => read settingsPath level given true rest
              | '-' :: '-' :: body => do
                  read settingsPath level (← given.readLong level body) false rest
              | '-' :: letter :: letters => do
                  read settingsPath level (← given.readShort level (letter :: letters)) false rest
              | _ =>
                  match given.pending with
                  | some (slot, none) =>
                      read settingsPath level { given with pending := some (slot, some argument) }
                        false rest
                  | _ => do
                      read settingsPath level (← given.readOperand level false argument) false rest

end Level

namespace CommandLine

def command? (level : Level) (given : Given) : Option Command :=
  match level with
  | .query => (given.value? .query).map .query
  | .manual => some (.manual (given.value? .asJsonSchema).isSome)
  | .version => some .version
  | .showSettings => some (.settings none)
  | .setProject => (given.value? .key).map fun key => .settings (some (.project key))
  | .setBoard =>
      ((given.value? .id).bind Text.word?).map fun id => .settings (some (.board id))
  | .setService =>
      (given.value? .address).map fun address =>
        .settings (some (.service address (given.value? .email)
          ((given.value? .deployment).bind Deployment.ofName?)
          ((given.value? .auth).bind AuthScheme.ofName?)))
  | .program => none
  | .settings => none

/-- Reads a command line.  For a slot that is on every level, the innermost value
counts; `settingsPath` is what the environment says where the arguments say
nothing. -/
def ofArguments (settingsPath : Option String) (arguments : List String) :
    Except UsageError CommandLine := do
  let levels ← Level.program.read settingsPath {} false arguments
  let value? (slot : Slot) : Option String :=
    levels.reverse.findSome? fun (_, given) => given.value? slot
  match levels.getLast?.bind fun (level, given) => command? level given with
  | none => throw .missingCommand
  | some command =>
      return {
        command
        project := value? .project
        board := (value? .board).bind Text.word?
        settingsPath := (value? .settingsPath).or settingsPath
        jsonErrors := (value? .jsonErrors).isSome
        verbose := (value? .verbose).isSome }

end CommandLine

end IssueQuery
