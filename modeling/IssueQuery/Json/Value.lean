import IssueQuery.Decimal.Binary64

namespace IssueQuery

/-! JSON values.

The members of an object are kept in the order in which they are to be written.
A value of free form, where nothing fixes an order, is brought into its sorted
form on reading: names ascending, and of a repeated name only the last member. -/

/-- A JSON number: a whole number that fits into 64 bits, signed or unsigned, or
a binary64 number. -/
inductive Json.Number where
  | int (value : Int)
  | float (value : Decimal.Binary64)
deriving DecidableEq, Repr, Inhabited

inductive Json where
  | null
  | bool (value : Bool)
  | number (value : Json.Number)
  | string (value : String)
  | array (items : List Json)
  | object (members : List (String × Json))
deriving Repr, Inhabited

namespace Json

def ofNat (value : Nat) : Json := .number (.int value)

def ofInt (value : Int) : Json := .number (.int value)

def ofStrings (values : List String) : Json := .array (values.map .string)

/-- Absent values are written as `null`. -/
def ofOption {α : Type} (encode : α → Json) : Option α → Json
  | none => .null
  | some value => encode value

/-- Puts a member at its place in a list with ascending names; a member of the
same name is replaced. -/
def insertSorted {α : Type} (name : String) (value : α) :
    List (String × α) → List (String × α)
  | [] => [(name, value)]
  | (head, content) :: rest =>
      if name < head then (name, value) :: (head, content) :: rest
      else if name = head then (name, value) :: rest
      else (head, content) :: insertSorted name value rest

/-- The members in ascending order of names, each name with its last value. -/
def sortMembers {α : Type} (members : List (String × α)) : List (String × α) :=
  members.foldl (fun sorted member => insertSorted member.1 member.2 sorted) []

theorem lookup_cons_if {α : Type} (head : String × α) (rest : List (String × α)) (name : String) :
    (head :: rest).lookup name = if name = head.1 then some head.2 else rest.lookup name := by
  obtain ⟨other, value⟩ := head
  by_cases same : name = other
  · simp [same]
  · simp [List.lookup_cons, same, beq_eq_false_iff_ne.mpr same]

theorem lookup_insertSorted {α : Type} (name other : String) (value : α)
    (members : List (String × α)) :
    (insertSorted name value members).lookup other =
      if other = name then some value else members.lookup other := by
  induction members with
  | nil => rw [insertSorted, lookup_cons_if]
  | cons member rest ih =>
      obtain ⟨head, content⟩ := member
      unfold insertSorted
      split
      · rw [lookup_cons_if]
      · split <;> simp only [lookup_cons_if, ih] <;> grind

/-- Of several members with one name, the last counts. -/
theorem lookup_sortMembers {α : Type} (name : String) (members : List (String × α)) :
    (sortMembers members).lookup name = members.reverse.lookup name := by
  have general : ∀ sorted : List (String × α),
      (members.foldl (fun sorted member => insertSorted member.1 member.2 sorted) sorted).lookup
        name = (members.reverse.lookup name).or (sorted.lookup name) := by
    induction members with
    | nil => simp
    | cons member rest ih =>
        intro sorted
        rw [List.foldl_cons, ih, lookup_insertSorted, List.reverse_cons, List.lookup_append,
          Option.or_assoc, lookup_cons_if]
        split <;> simp
  rw [sortMembers, general, List.lookup_nil, Option.or_none]

mutual

/-- The same value with the members of every object in sorted form. -/
def sorted : Json → Json
  | .array items => .array (sortedItems items)
  | .object members => .object (sortMembers (sortedMembers members))
  | .null => .null
  | .bool value => .bool value
  | .number value => .number value
  | .string value => .string value

def sortedItems : List Json → List Json
  | [] => []
  | item :: rest => item.sorted :: sortedItems rest

def sortedMembers : List (String × Json) → List (String × Json)
  | [] => []
  | (name, value) :: rest => (name, value.sorted) :: sortedMembers rest

end

mutual

/-- How many arrays and objects are open at the deepest point of a value. -/
def depth : Json → Nat
  | .array items => itemsDepth items + 1
  | .object members => membersDepth members + 1
  | .null => 0
  | .bool _ => 0
  | .number _ => 0
  | .string _ => 0

def itemsDepth : List Json → Nat
  | [] => 0
  | item :: rest => max item.depth (itemsDepth rest)

def membersDepth : List (String × Json) → Nat
  | [] => 0
  | (_, value) :: rest => max value.depth (membersDepth rest)

end

def get? (value : Json) (name : String) : Option Json :=
  match value with
  | .object members => members.lookup name
  | _ => none

def string? : Json → Option String
  | .string value => some value
  | _ => none

def int? : Json → Option Int
  | .number (.int value) => some value
  | _ => none

def bool? : Json → Option Bool
  | .bool value => some value
  | _ => none

def items? : Json → Option (List Json)
  | .array items => some items
  | _ => none

def members? : Json → Option (List (String × Json))
  | .object members => some members
  | _ => none

end Json

end IssueQuery
