import IssueQuery.Decimal.Binary64

namespace IssueQuery

/-! The values that queries answer with.

A record lists its entries in the order in which their names were first
inserted; a name stands in it once. -/

inductive Value where
  | null
  | bool (value : Bool)
  | int (value : Int)
  | float (value : Decimal.Binary64)
  | text (value : String)
  | list (items : List Value)
  | record (entries : List (String × Value))
deriving Repr, Inhabited

/-- An association from names to values that keeps the order of insertion. -/
structure Record where
  entries : List (String × Value) := []
deriving Repr, Inhabited

namespace Value

/-- The greatest whole number a value holds. -/
def greatestInt : Nat := Nat.pow 2 63 - 1

/-- A count or an identifier; one beyond the greatest whole number becomes the
greatest. -/
def ofNat (count : Nat) : Value := .int (min count greatestInt)

/-- An absent text is null. -/
def ofText? (text : Option String) : Value := (text.map Value.text).getD .null

def ofTexts (texts : List String) : Value := .list (texts.map .text)

def ofRecord (record : Record) : Value := .record record.entries

def text? : Value → Option String
  | .text value => some value
  | _ => none

def int? : Value → Option Int
  | .int value => some value
  | _ => none

def list? : Value → Option (List Value)
  | .list items => some items
  | _ => none

def record? : Value → Option Record
  | .record entries => some ⟨entries⟩
  | _ => none

def isNull : Value → Bool
  | .null => true
  | _ => false

end Value

namespace Record

def empty : Record := ⟨[]⟩

/-- Replaces the value of a name where it stands, or appends a new entry. -/
def insertEntry (name : String) (value : Value) :
    List (String × Value) → List (String × Value)
  | [] => [(name, value)]
  | (head, content) :: rest =>
      if head = name then (head, value) :: rest
      else (head, content) :: insertEntry name value rest

def insert (record : Record) (name : String) (value : Value) : Record :=
  ⟨insertEntry name value record.entries⟩

def insertMany (record : Record) (entries : List (String × Value)) : Record :=
  entries.foldl (fun current entry => current.insert entry.1 entry.2) record

def ofList (entries : List (String × Value)) : Record := empty.insertMany entries

def get? (record : Record) (name : String) : Option Value := record.entries.lookup name

def contains (record : Record) (name : String) : Bool := (record.get? name).isSome

def keys (record : Record) : List String := record.entries.map (·.1)

def size (record : Record) : Nat := record.entries.length

def isEmpty (record : Record) : Bool := record.entries.isEmpty

end Record

end IssueQuery
