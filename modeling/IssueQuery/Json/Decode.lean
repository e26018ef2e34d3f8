import IssueQuery.Json.Source

namespace IssueQuery.Json.Source

/-! Decoding JSON into typed values.

A record type is written as an object of named members, in any order, of which
any may be missing and others may be present; or as an array of its fields in
order, which may stop early.  A decoder refuses a value of the wrong kind and
takes a missing one for the default. -/

variable {α β : Type}

mutual

/-- How many arrays and objects are open at the deepest point of a tree. -/
def depth : Source → Nat
  | .array items => itemsDepth items + 1
  | .object members => membersDepth members + 1
  | .null => 0
  | .bool _ => 0
  | .number _ => 0
  | .string _ => 0
  | .unreadable => 0

def itemsDepth : List Source → Nat
  | [] => 0
  | item :: rest => max item.depth (itemsDepth rest)

def membersDepth : List (Option String × Source) → Nat
  | [] => 0
  | (_, value) :: rest => max value.depth (membersDepth rest)

end

/-- The members with one of the names.  A name given twice is refused, and so is
a member whose name cannot be read; other members are dropped. -/
def knownMembers? (names : List String) :
    List (Option String × Source) → Option (List (String × Source))
  | [] => some []
  | (none, _) :: _ => none
  | (some name, value) :: rest =>
      match knownMembers? names rest with
      | none => none
      | some members =>
          if names.contains name then
            if (members.lookup name).isSome then none else some ((name, value) :: members)
          else some members

/-- The fields of a record by name. -/
def fields? (names : List String) : Source → Option (List (String × Source))
  | .object members => knownMembers? names members
  | .array items => if items.length ≤ names.length then some (names.zip items) else none
  | _ => none

/-- The value of a field, or the default when it is missing. -/
def fieldD? (fields : List (String × Source)) (name : String) (decode : Source → Option α)
    (default : α) : Option α :=
  match fields.lookup name with
  | some value => decode value
  | none => some default

def required? (fields : List (String × Source)) (name : String)
    (decode : Source → Option α) : Option α :=
  (fields.lookup name).bind decode

def string? : Source → Option String
  | .string value => some value
  | _ => none

def bool? : Source → Option Bool
  | .bool value => some value
  | _ => none

def word? : Source → Option UInt64
  | .number (.int value) =>
      if 0 ≤ value ∧ value < UInt64.size then some value.toNat.toUInt64 else none
  | _ => none

def int32? : Source → Option Int
  | .number (.int value) =>
      if -Int.pow 2 31 ≤ value ∧ value < Int.pow 2 31 then some value else none
  | _ => none

def optional? (decode : Source → Option α) : Source → Option (Option α)
  | .null => some none
  | value => (decode value).map some

def list? (decode : Source → Option α) : Source → Option (List α)
  | .array items => items.mapM decode
  | _ => none

/-- The entries of a map in their order, each name readable. -/
def entries? (decode : Source → Option α) :
    List (Option String × Source) → Option (List (String × α))
  | [] => some []
  | (some name, value) :: rest =>
      match decode value, entries? decode rest with
      | some value, some entries => some ((name, value) :: entries)
      | _, _ => none
  | (none, _) :: _ => none

/-- A map from names, as an object: the names come out in ascending order, and
of a repeated name the last value counts. -/
def map? (decode : Source → Option α) : Source → Option (List (String × α))
  | .object members => (entries? decode members).map sortMembers
  | _ => none

end IssueQuery.Json.Source
