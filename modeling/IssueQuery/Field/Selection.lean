import IssueQuery.Field.Basic

namespace IssueQuery

/-! Choosing fields by name. -/

/-- A named bundle of fields. -/
structure Preset where
  name : String
  fields : List Field
  /-- The bundle stands for every field there is. -/
  selectsAll : Bool := false
deriving DecidableEq, Repr, Inhabited

namespace Preset

/-- The preset of a statement that names no fields. -/
def standard : Preset := ⟨"default", [.key, .summary, .status, .assignee], false⟩

def all : List Preset :=
  [⟨"minimal", [.key, .status], false⟩,
    standard,
    ⟨"overview", [.key, .summary, .status, .assignee, .type, .priority, .parent], false⟩,
    ⟨"full", Field.all, true⟩]

def ofName? (name : String) : Option Preset := all.find? (·.name = name)

end Preset

namespace Field

/-- The fields a name stands for: those of the preset of that name, or else the
field of that name. -/
def ofNameOrPreset? (name : String) : Option (List Field) :=
  match Preset.ofName? name with
  | some preset => some preset.fields
  | none => (ofName? name).map ([·])

/-- The fields that a list of names stands for, each once, in order of first
mention; or the first name that is neither a preset nor a field. -/
def expand (names : List String) : Except String (List Field) := do
  let groups ← names.mapM fun name =>
    match ofNameOrPreset? name with
    | some fields => .ok fields
    | none => .error name
  return distinct groups.flatten

end Field

/-- What is said of a name that is neither a preset nor a field. -/
def unknownFieldMessage (name : String) : String := "unknown field: " ++ name

/-- The fields chosen by a statement. -/
structure Selection where
  chosen : List Field
  selectsAll : Bool
deriving DecidableEq, Repr, Inhabited

namespace Selection

/-- The choice of a list of names.  No names choose the standard preset; names
that cover every field, or hold a preset that does, choose all. -/
def ofNames (names : List String) : Except String Selection :=
  if names.isEmpty then
    .ok ⟨Preset.standard.fields, Preset.standard.selectsAll⟩
  else do
    let chosen ← Field.expand names
    let namesAll := names.any fun name => ((Preset.ofName? name).map (·.selectsAll)).getD false
    return ⟨chosen, namesAll || Field.all.all chosen.contains⟩

def includes (selection : Selection) (field : Field) : Bool :=
  selection.selectsAll || selection.chosen.contains field

/-- The chosen fields in the order of records. -/
def fields (selection : Selection) : List Field := Field.all.filter selection.includes

def project (selection : Selection) (issue : Issue) : Record :=
  .ofList (selection.fields.filterMap fun field =>
    (field.value? issue).map fun value => (field.name, value))

/-- What the service has to be asked for to show the chosen fields. -/
def serviceFields (selection : Selection) : List String :=
  Field.serviceNames selection.fields

/-- What the service has to be asked for when further fields are read. -/
def serviceFieldsWith (selection : Selection) (further : List Field) : List String :=
  Field.serviceNames (Field.distinct (selection.fields ++ further))

end Selection

end IssueQuery
