namespace IssueQuery.Decimal

/-! Binary floating-point numbers of 64 bits, held by their bits, so that two
of them are equal exactly when they are the same word. -/

structure Binary64 where
  bits : UInt64
deriving DecidableEq, Repr, Inhabited

namespace Binary64

def ofFloat (value : Float) : Binary64 := ⟨value.toBits⟩

/-- The nearest number to a word, an even significand winning a tie. -/
def ofWord (word : UInt64) : Binary64 := ofFloat word.toFloat

def isNegative (number : Binary64) : Bool := Nat.pow 2 63 ≤ number.bits.toNat

def exponentField (number : Binary64) : Nat := number.bits.toNat / Nat.pow 2 52 % Nat.pow 2 11

def fractionField (number : Binary64) : Nat := number.bits.toNat % Nat.pow 2 52

/-- A magnitude `significand * 2 ^ exponent`. -/
structure Magnitude where
  significand : Nat
  exponent : Int
  /-- The next smaller number is only half as far away as the next larger one.
  This happens at the powers of two. -/
  closerBelow : Bool

def magnitude (number : Binary64) : Magnitude :=
  if number.exponentField = 0 then
    ⟨number.fractionField, -1074, false⟩
  else
    ⟨Nat.pow 2 52 + number.fractionField, (number.exponentField : Int) - 1075,
      number.fractionField == 0 && decide (1 < number.exponentField)⟩

end Binary64

end IssueQuery.Decimal
