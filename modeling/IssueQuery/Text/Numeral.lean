namespace IssueQuery.Text

/-! Decimal numerals. -/

def digitsValue (digits : List Char) : Nat :=
  digits.foldl (fun value digit => value * 10 + (digit.toNat - '0'.toNat)) 0

/-- The number a text of decimal digits stands for.  A plus sign may stand in
front; there must be a digit, and nothing but digits. -/
def natural? (text : String) : Option Nat :=
  let digits :=
    match text.toList with
    | '+' :: rest => rest
    | characters => characters
  if digits ≠ [] ∧ digits.all Char.isDigit then some (digitsValue digits) else none

/-- Numerals are read into words of 64 bits: a number of `2 ^ 64` or more is
refused, never reduced. -/
def word? (text : String) : Option UInt64 :=
  match natural? text with
  | some value => if value < UInt64.size then some value.toUInt64 else none
  | none => none

end IssueQuery.Text
