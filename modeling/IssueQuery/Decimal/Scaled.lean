import IssueQuery.Decimal.Binary64

namespace IssueQuery.Decimal

/-! Reading a decimal into binary64 by scaling.

The leading digits that fit into a word form a significand, the digits behind
them are dropped, and the significand is multiplied or divided by a power of
ten.  Each of these steps rounds on its own, so the result can differ from the
nearest number in its last place. -/

/-- Digits gathered so far: `significand * 10 ^ exponent`. -/
structure Gathered where
  significand : Nat
  exponent : Int
deriving DecidableEq, Repr

/-- Appends a digit to a significand if the result still fits into a word. -/
def appendDigit? (significand : Nat) (digit : Char) : Option Nat :=
  let extended := significand * 10 + (digit.toNat - '0'.toNat)
  if extended < UInt64.size then some extended else none

/-- Gathers the digits in front of the point.  From the first digit that does
not fit on, every digit only counts as a place. -/
def gatherWhole (significand : Nat) : List Char → Gathered
  | [] => ⟨significand, 0⟩
  | digit :: rest =>
      match appendDigit? significand digit with
      | some extended => gatherWhole extended rest
      | none => ⟨significand, (digit :: rest).length⟩

/-- Gathers the digits behind the point, up to the first that does not fit. -/
def gatherDecimals (gathered : Gathered) : List Char → Gathered
  | [] => gathered
  | digit :: rest =>
      match appendDigit? gathered.significand digit with
      | some extended => gatherDecimals ⟨extended, gathered.exponent - 1⟩ rest
      | none => gathered

/-- The greatest power of ten that is finite in binary64. -/
def greatestPower : Nat := 308

def powerOfTen (exponent : Nat) : Float := Float.ofScientific 1 false exponent

/-- Divides by a power of ten in steps that are finite each. -/
def divideByPower (value : Float) (exponent : Nat) : Float :=
  if exponent ≤ greatestPower then value / powerOfTen exponent
  else if value == 0 then value
  else divideByPower (value / powerOfTen greatestPower) (exponent - greatestPower)
termination_by exponent
decreasing_by simp only [greatestPower] at *; omega

/-- Multiplies by a power of ten; a product beyond the finite numbers is
refused. -/
def multiplyByPower? (value : Float) (exponent : Nat) : Option Float :=
  if exponent ≤ greatestPower then
    let product := value * powerOfTen exponent
    if product.isFinite then some product else none
  else if value == 0 then some value
  else none

/-- The number gathered digits stand for, if it is not too large. -/
def Gathered.toBinary64? (negative : Bool) (gathered : Gathered) : Option Binary64 :=
  let start := gathered.significand.toUInt64.toFloat
  let scaled :=
    if gathered.exponent < 0 then some (divideByPower start gathered.exponent.natAbs)
    else multiplyByPower? start gathered.exponent.toNat
  scaled.map fun value => .ofFloat (if negative then -value else value)

end IssueQuery.Decimal
