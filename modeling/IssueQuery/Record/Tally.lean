import IssueQuery.Json.Value
import IssueQuery.Record.Basic

namespace IssueQuery

/-! Counting names. -/

/-- How often each name occurred, in ascending order of names. -/
abbrev Tally := List (String × Nat)

namespace Tally

def bump (tally : Tally) (name : String) : Tally :=
  Json.insertSorted name ((tally.lookup name).getD 0 + 1) tally

def ofNames (names : List String) : Tally := names.foldl bump []

def toRecord (tally : Tally) : Record :=
  .ofList (tally.map fun (name, count) => (name, Value.ofNat count))

end Tally

end IssueQuery
