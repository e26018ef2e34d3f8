namespace IssueQuery

/-! Settings files: TOML documents and how their tables come about.

A document builds its tables piece by piece, by headers and by dotted names.
Which of the two made a table decides what may still be added to it. -/

/-- How a table came about. -/
inductive Toml.Origin where
  /-- Written as a value, and complete. -/
  | literal
  /-- By a header of its own. -/
  | header
  /-- By the header of a table inside it. -/
  | implied
  /-- By a dotted name. -/
  | dotted
deriving DecidableEq, Repr, Inhabited

inductive Toml where
  | string (value : String)
  | integer (value : Int)
  | boolean (value : Bool)
  /-- A floating-point number; no setting holds one. -/
  | float
  /-- A date or a time of day; no setting holds one. -/
  | moment
  | array (items : List Toml)
  | table (origin : Toml.Origin) (entries : List (String × Toml))
  /-- Tables with a common header, of which the last one can be added to. -/
  | tables (members : List (List (String × Toml)))
deriving Repr, Inhabited

namespace Toml

abbrev Entries := List (String × Toml)

/-- Gives a name its value, at its place if there is one. -/
def setEntry (name : String) (value : Toml) : Entries → Entries
  | [] => [(name, value)]
  | (head, content) :: rest =>
      if head = name then (name, value) :: rest else (head, content) :: setEntry name value rest

/-- Changes the last of a list of tables. -/
def modifyLast? (change : Entries → Option Entries) :
    List Entries → Option (List Entries)
  | [] => none
  | [last] => (change last).map ([·])
  | first :: rest => (modifyLast? change rest).map (first :: ·)

/-- Adds an entry under a dotted name, of which `name` is the last part and
`path` the others.  The tables on the way must not have a header; the table that
gets the entry must be a dotted one, except at the start of the way. -/
def insertDotted? (path : List String) (name : String) (value : Toml) (mayHold : Bool)
    (entries : Entries) : Option Entries :=
  match path with
  | [] =>
      if mayHold && (entries.lookup name).isNone then some (entries ++ [(name, value)]) else none
  | first :: others =>
      match entries.lookup first with
      | none =>
          (insertDotted? others name value true []).map fun inner =>
            entries ++ [(first, .table .dotted inner)]
      | some (.table .dotted inner) =>
          (insertDotted? others name value true inner).map fun inner =>
            setEntry first (.table .dotted inner) entries
      | some (.table .implied inner) =>
          (insertDotted? others name value false inner).map fun inner =>
            setEntry first (.table .implied inner) entries
      | some (.tables members) =>
          (modifyLast? (insertDotted? others name value false) members).map fun members =>
            setEntry first (.tables members) entries
      | some _ => none

/-- Changes the table that a header names.  Missing tables are implied. -/
def modifyAt? (path : List String) (change : Entries → Option Entries)
    (entries : Entries) : Option Entries :=
  match path with
  | [] => change entries
  | first :: others =>
      match entries.lookup first with
      | none =>
          (modifyAt? others change []).map fun inner =>
            entries ++ [(first, .table .implied inner)]
      | some (.table .literal _) => none
      | some (.table origin inner) =>
          (modifyAt? others change inner).map fun inner =>
            setEntry first (.table origin inner) entries
      | some (.tables members) =>
          (modifyLast? (modifyAt? others change) members).map fun members =>
            setEntry first (.tables members) entries
      | some _ => none

/-- Starts a table by its header.  It may have been implied before. -/
def startTable? (name : String) (entries : Entries) : Option Entries :=
  match entries.lookup name with
  | none => some (entries ++ [(name, .table .header [])])
  | some (.table .implied inner) => some (setEntry name (.table .header inner) entries)
  | some _ => none

/-- Starts a further table with a common header. -/
def startMember? (name : String) (entries : Entries) : Option Entries :=
  match entries.lookup name with
  | none => some (entries ++ [(name, .tables [[]])])
  | some (.tables members) => some (setEntry name (.tables (members ++ [[]])) entries)
  | some _ => none

end Toml

end IssueQuery
