import IssueQuery.Text.Numeral
import IssueQuery.Toml.Value

namespace IssueQuery.Toml

/-! Numbers, truth values, dates and times, each written as one run of
characters without blanks. -/

def isScalarChar (character : Char) : Bool :=
  character.isAlphanum || "+-._:".toList.contains character

/-- The digits of a number in which single underscores may separate digits. -/
def digits? (isDigit : Char → Bool) : List Char → Option (List Char)
  | [] => none
  | [last] => if isDigit last then some [last] else none
  | first :: '_' :: rest =>
      if isDigit first then (digits? isDigit rest).map (first :: ·) else none
  | first :: rest => if isDigit first then (digits? isDigit rest).map (first :: ·) else none

/-- The digits of a whole number, which has no leading zero. -/
def wholeDigits? (characters : List Char) : Option (List Char) :=
  match digits? Char.isDigit characters with
  | some ('0' :: next :: rest) => if characters = ['0'] then some ('0' :: next :: rest) else none
  | other => other

def splitSign : List Char → Bool × List Char
  | '+' :: rest => (false, rest)
  | '-' :: rest => (true, rest)
  | characters => (false, characters)

def digitValue (digit : Char) : Nat :=
  if digit.isDigit then digit.toNat - '0'.toNat
  else if 'a' ≤ digit then digit.toNat - 'a'.toNat + 10
  else digit.toNat - 'A'.toNat + 10

def isHexDigit (character : Char) : Bool :=
  character.isDigit || ('a' ≤ character && character ≤ 'f') ||
    ('A' ≤ character && character ≤ 'F')

def isOctalDigit (character : Char) : Bool := '0' ≤ character && character ≤ '7'

def isBinaryDigit (character : Char) : Bool := character == '0' || character == '1'

def valueIn (base : Nat) (digits : List Char) : Int :=
  digits.foldl (fun total digit => total * base + digitValue digit) 0

/-- A whole number with its sign, or in base 16, 8 or 2 without. -/
def integer? (characters : List Char) : Option Int :=
  match characters with
  | '0' :: 'x' :: rest => (digits? isHexDigit rest).map (valueIn 16)
  | '0' :: 'o' :: rest => (digits? isOctalDigit rest).map (valueIn 8)
  | '0' :: 'b' :: rest => (digits? isBinaryDigit rest).map (valueIn 2)
  | _ =>
      let (negative, unsigned) := splitSign characters
      (wholeDigits? unsigned).map fun digits =>
        if negative then -valueIn 10 digits else valueIn 10 digits

/-- Whether a whole number fits into 64 bits with sign. -/
def isInteger64 (value : Int) : Bool := -Int.pow 2 63 ≤ value && value < Int.pow 2 63

/-- The exponent of a floating-point number, without its mark. -/
def exponent? (characters : List Char) : Option Int :=
  let (negative, unsigned) := splitSign characters
  (digits? Char.isDigit unsigned).map fun digits =>
    if negative then -valueIn 10 digits else valueIn 10 digits

/-- Whether `digits * 10 ^ exponent` rounds to a finite number of 64 bits. -/
def roundsToFinite (digits : List Char) (exponent : Int) : Bool :=
  let significand := Text.digitsValue digits
  let places := (significand.repr.length : Int) + exponent
  if significand = 0 ∨ places < 300 then true
  else if 320 < places then false
  else
    decide (significand * Nat.pow 10 exponent.toNat <
      (Nat.pow 2 1024 - Nat.pow 2 970) * Nat.pow 10 (-exponent).toNat)

/-- Whether characters write a floating-point number: a whole number with a
fraction, an exponent or both.  A positive one must not be too large. -/
def isFloat (characters : List Char) : Bool :=
  let (negative, unsigned) := splitSign characters
  if unsigned = "inf".toList || unsigned = "nan".toList then true
  else
    let isMark (character : Char) : Bool := character == 'e' || character == 'E'
    let mantissa := unsigned.takeWhile (!isMark ·)
    let exponent := (unsigned.dropWhile (!isMark ·)).drop 1
    let whole := mantissa.takeWhile (· != '.')
    let fraction := (mantissa.dropWhile (· != '.')).drop 1
    let hasPoint := mantissa.contains '.'
    let hasMark := unsigned.any isMark
    if !hasPoint && !hasMark then false
    else
      match wholeDigits? whole, if hasPoint then digits? Char.isDigit fraction else some [],
          if hasMark then exponent? exponent else some 0 with
      | some wholeDigits, some fractionDigits, some shift =>
          negative ||
            roundsToFinite (wholeDigits ++ fractionDigits) (shift - fractionDigits.length)
      | _, _, _ => false

/-- The number written by exactly so many digits. -/
def fixedDigits? (count : Nat) (characters : List Char) : Option (Nat × List Char) :=
  let digits := characters.take count
  if digits.length = count ∧ digits.all Char.isDigit then
    some (Text.digitsValue digits, characters.drop count)
  else none

def isLeapYear (year : Nat) : Bool :=
  year % 4 == 0 && (year % 100 != 0 || year % 400 == 0)

def daysIn (year month : Nat) : Nat :=
  if month = 2 then (if isLeapYear year then 29 else 28)
  else if [4, 6, 9, 11].contains month then 30
  else 31

/-- What follows a date at the front. -/
def dropDate? (characters : List Char) : Option (List Char) := do
  let (year, rest) ← fixedDigits? 4 characters
  let rest ← if rest.head? = some '-' then some (rest.drop 1) else none
  let (month, rest) ← fixedDigits? 2 rest
  let rest ← if rest.head? = some '-' then some (rest.drop 1) else none
  let (day, rest) ← fixedDigits? 2 rest
  if 1 ≤ month ∧ month ≤ 12 ∧ 1 ≤ day ∧ day ≤ daysIn year month then some rest else none

/-- What follows a time of day at the front. -/
def dropTime? (characters : List Char) : Option (List Char) := do
  let (hour, rest) ← fixedDigits? 2 characters
  let rest ← if rest.head? = some ':' then some (rest.drop 1) else none
  let (minute, rest) ← fixedDigits? 2 rest
  let rest ← if rest.head? = some ':' then some (rest.drop 1) else none
  let (second, rest) ← fixedDigits? 2 rest
  if hour ≤ 23 ∧ minute ≤ 59 ∧ second ≤ 60 then
    match rest with
    | '.' :: fraction =>
        if (fraction.head?.map Char.isDigit).getD false then
          some (fraction.dropWhile Char.isDigit)
        else none
    | _ => some rest
  else none

/-- Whether characters say how far a time is from that of Greenwich, or say
nothing. -/
def isOffset (characters : List Char) : Bool :=
  match characters with
  | [] => true
  | ['Z'] => true
  | ['z'] => true
  | sign :: rest =>
      (sign == '+' || sign == '-') &&
        match fixedDigits? 2 rest with
        | some (hour, ':' :: rest) =>
            match fixedDigits? 2 rest with
            | some (minute, []) => hour ≤ 23 && minute ≤ 59
            | _ => false
        | _ => false

/-- Whether characters write a time of day, with an offset or without. -/
def isTimeOfDay (characters : List Char) : Bool :=
  match dropTime? characters with
  | some rest => isOffset rest
  | none => false

def isDate (characters : List Char) : Bool := dropDate? characters == some []

/-- Whether characters write a date, a time of day without offset, or both. -/
def isMoment (characters : List Char) : Bool :=
  dropTime? characters == some [] ||
    match dropDate? characters with
    | some [] => true
    | some (mark :: rest) => (mark == 'T' || mark == 't') && isTimeOfDay rest
    | none => false

def scalar? (characters : List Char) : Option Toml :=
  if characters = "true".toList then some (.boolean true)
  else if characters = "false".toList then some (.boolean false)
  else if isMoment characters then some .moment
  else if isFloat characters then some .float
  else
    match integer? characters with
    | some value => if isInteger64 value then some (.integer value) else none
    | none => none

/-- Reads a scalar.  Between a date and a time of day there may be a space. -/
def readScalar? (characters : List Char) : Option (Toml × List Char) :=
  let word := characters.takeWhile isScalarChar
  let rest := characters.dropWhile isScalarChar
  match rest with
  | ' ' :: behind =>
      let second := behind.takeWhile isScalarChar
      if isDate word && isTimeOfDay second then
        some (.moment, behind.dropWhile isScalarChar)
      else (scalar? word).map (·, rest)
  | _ => (scalar? word).map (·, rest)

end IssueQuery.Toml
