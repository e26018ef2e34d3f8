import IssueQuery.Operation.Refusal
import IssueQuery.Query.Statement
import IssueQuery.Text.Caseless
import IssueQuery.Text.Numeral

namespace IssueQuery

/-! The order of a list of issues and the part of it that is shown. -/

inductive Direction where
  | ascending
  | descending
deriving DecidableEq, Repr, Inhabited

structure Order where
  field : Field
  direction : Direction
deriving DecidableEq, Repr, Inhabited

namespace Order

/-- What the name of an argument for an order starts with. -/
def argumentStart : List Char := "sort_".toList

def fieldName? (argument : String) : Option String :=
  if argumentStart.isPrefixOf argument.toList then
    some (String.ofList (argument.toList.drop argumentStart.length))
  else none

def directionOf? (value : String) : Option Direction :=
  match Text.lower value with
  | "asc" => some .ascending
  | "desc" => some .descending
  | _ => none

def ofArgument (argument name value : String) : Except Refusal Order :=
  match (Field.ofName? name).filter Field.isSortable with
  | none => .error (.unsortable argument name)
  | some field =>
      match directionOf? value with
      | none => .error (.badOrder argument value)
      | some direction => .ok ⟨field, direction⟩

/-- The order that named arguments ask for.  There may be one such argument. -/
def ofArguments : List (String × String) → Except Refusal (Option Order)
  | [] => .ok none
  | (argument, value) :: rest =>
      match fieldName? argument with
      | none => ofArguments rest
      | some name => do
          let order ← ofArgument argument name value
          match rest.find? fun other => (fieldName? other.1).isSome with
          | some (second, _) => throw (.secondSort second)
          | none => return some order

/-- Whether the first of two keys may stand in front of the second. -/
def inOrder (direction : Direction) (first second : String) : Bool :=
  match direction with
  | .ascending => decide (first ≤ second)
  | .descending => decide (second ≤ first)

/-- Sorts issues.  Issues with equal keys keep their order. -/
def sort (order : Order) (issues : List Issue) : List Issue :=
  ((issues.map fun issue => (order.field.sortKey issue, issue)).mergeSort
    fun first second => inOrder order.direction first.1 second.1).map (·.2)

end Order

/-- A part of a list: so many items are left out, and at most so many shown. -/
structure Window where
  skip : Nat := 0
  take : Option Nat := none
deriving DecidableEq, Repr, Inhabited

namespace Window

def count? (statement : Statement) (argument : String) : Except Refusal (Option Nat) :=
  match statement.value? argument with
  | none => .ok none
  | some value =>
      match Text.word? value with
      | some word => .ok (some word.toNat)
      | none => .error (.badCount argument value)

def ofStatement (statement : Statement) : Except Refusal Window := do
  let skip ← count? statement "skip"
  let take ← count? statement "take"
  return ⟨skip.getD 0, take⟩

def apply {α : Type} (window : Window) (items : List α) : List α :=
  let rest := items.drop window.skip
  match window.take with
  | none => rest
  | some count => rest.take count

end Window

end IssueQuery
