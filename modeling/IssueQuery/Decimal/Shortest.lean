import IssueQuery.Decimal.Binary64

namespace IssueQuery.Decimal

/-! The shortest decimal that reads back as a given binary64 number.

All decimals between the midpoints to the two neighbouring numbers read back as
the number itself; the midpoints belong to the interval when the significand is
even.  For one digit, two digits and so on the two points of the decimal grid
around the number are tried, and the first grid that has a point inside the
interval gives the digits.  All arithmetic is on natural numbers. -/

/-- A decimal `coefficient * 10 ^ exponent`. -/
structure Scientific where
  coefficient : Nat
  exponent : Int
deriving DecidableEq, Repr, Inhabited

/-- Compares `left * 10 ^ tens` with `right * 2 ^ twos`. -/
def compareScaled (left : Nat) (tens : Int) (right : Nat) (twos : Int) : Ordering :=
  compare (left * Nat.pow 10 tens.toNat * Nat.pow 2 (-twos).toNat)
    (right * Nat.pow 2 twos.toNat * Nat.pow 10 (-tens).toNat)

namespace Binary64.Magnitude

/-- The whole part of the magnitude divided by `10 ^ tens`. -/
def quotient (value : Magnitude) (tens : Int) : Nat :=
  (value.significand * Nat.pow 2 value.exponent.toNat * Nat.pow 10 (-tens).toNat) /
    (Nat.pow 2 (-value.exponent).toNat * Nat.pow 10 tens.toNat)

/-- The position of the leading decimal digit: the exponent of the greatest
power of ten that does not exceed the magnitude.  Three hundred and forty
decimal places reach below the least positive magnitude. -/
def leadingPlace (value : Magnitude) : Int :=
  ((value.quotient (-340)).repr.length : Int) - 341

/-- Whether a decimal reads back as the number: it lies between the midpoints to
the neighbours, or on one of them when the significand is even. -/
def readsBack (value : Magnitude) (decimal : Scientific) : Bool :=
  let below := 4 * value.significand - if value.closerBelow then 1 else 2
  let above := 4 * value.significand + 2
  let toBelow := compareScaled decimal.coefficient decimal.exponent below (value.exponent - 2)
  let toAbove := compareScaled decimal.coefficient decimal.exponent above (value.exponent - 2)
  if value.significand % 2 = 0 then toBelow != .lt && toAbove != .gt
  else toBelow == .gt && toAbove == .lt

/-- Of the two grid points around the magnitude, whether the upper one is to be
preferred: it is nearer, or it is as near and its last digit is even. -/
def prefersUpper (value : Magnitude) (lower : Scientific) : Bool :=
  match compareScaled (2 * lower.coefficient + 1) lower.exponent
      (2 * value.significand) value.exponent with
  | .lt => true
  | .eq => lower.coefficient % 2 = 1
  | .gt => false

/-- The point with `count` digits that reads back, if there is one. -/
def withDigits? (value : Magnitude) (count : Nat) : Option Scientific :=
  let exponent := value.leadingPlace - count + 1
  let lower : Scientific := ⟨value.quotient exponent, exponent⟩
  let upper : Scientific := ⟨lower.coefficient + 1, exponent⟩
  match value.readsBack lower, value.readsBack upper with
  | true, true => some (if value.prefersUpper lower then upper else lower)
  | true, false => some lower
  | false, true => some upper
  | false, false => none

/-- The shortest decimal that reads back.  Seventeen digits always suffice. -/
def shortest (value : Magnitude) : Scientific :=
  ((List.range 17).findSome? fun count => value.withDigits? (count + 1)).getD ⟨0, 0⟩

end Binary64.Magnitude

structure Layout where
  /-- The least position of the leading digit that is still written out. -/
  leastPlain : Int
  /-- The greatest position of the leading digit that is still written out. -/
  greatestPlain : Int

def significantDigits (coefficient : Nat) : List Char :=
  ((coefficient.repr.toList.reverse.dropWhile (· == '0')).reverse)

def zeros (count : Int) : List Char := List.replicate count.toNat '0'

/-- Writes digits whose first one stands at position `place`. -/
def Layout.write (layout : Layout) (digits : List Char) (place : Int) : List Char :=
  if layout.leastPlain ≤ place ∧ place ≤ layout.greatestPlain then
    if place < 0 then
      '0' :: '.' :: zeros (-place - 1) ++ digits
    else if (digits.length : Int) ≤ place + 1 then
      digits ++ zeros (place + 1 - digits.length) ++ ['.', '0']
    else
      digits.take (place.toNat + 1) ++ '.' :: digits.drop (place.toNat + 1)
  else
    let whole := digits.take 1
    let decimals := digits.drop 1
    whole ++ (if decimals.isEmpty then [] else '.' :: decimals) ++
      'e' :: (if place < 0 then '-' else '+') :: place.natAbs.repr.toList

/-- Numbers are written out from a hundred-thousandth up to sixteen digits in
front of the point, and with an exponent outside. -/
def Layout.json : Layout := ⟨-5, 15⟩

/-- The text of a finite number: always with a point or an exponent. -/
def Binary64.text (number : Binary64) : List Char :=
  let value := number.magnitude
  let sign := if number.isNegative then ['-'] else []
  if value.significand = 0 then sign ++ ['0', '.', '0']
  else
    let decimal := value.shortest
    let place := decimal.exponent + (decimal.coefficient.repr.length : Int) - 1
    sign ++ Layout.json.write (significantDigits decimal.coefficient) place

end IssueQuery.Decimal
