namespace IssueQuery

/-! Runs that come to no result, not even to an error.

A program is built either to check its sums of words or to let them wrap around.  A
sum that is checked and is no word stops the program where it stands. -/

inductive Halt where
  /-- A sum that is checked was greater than every word.  What the runtime says of it is
  left out. -/
  | overflow
  /-- A search went on behind as many pages as it was to be followed through.  The
  program itself knows no such bound: what it would do further on is left open. -/
  | cutOff
deriving DecidableEq, Repr, Inhabited

/-- How a program adds up words of 64 bits. -/
inductive Arithmetic where
  | checked
  | wrapping
deriving DecidableEq, Repr, Inhabited

def Arithmetic.add : Arithmetic → UInt64 → Nat → Except Halt UInt64
  | .checked, word, number =>
      if word.toNat + number < UInt64.size then .ok (word + number.toUInt64)
      else .error .overflow
  | .wrapping, word, number => .ok (word + number.toUInt64)

end IssueQuery
