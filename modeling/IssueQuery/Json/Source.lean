import IssueQuery.Decimal.Scaled
import IssueQuery.Json.Value
import IssueQuery.Text.Numeral

namespace IssueQuery.Json

/-! Reading JSON text.

A text is read into its tree of values first, and the tree is given a meaning
afterwards, by a decoder that knows what it expects.  The two steps differ in
what they refuse: text that is no JSON is refused by the first, while a number
out of range, half a surrogate pair or a value nested too deeply only matters
to a decoder that looks at it.  Such places are marked `unreadable`. -/

/-- The tree of values of a JSON text.  Members stand in the order of the text,
repeated names included; a name that is no Unicode text is `none`. -/
inductive Source where
  | null
  | bool (value : Bool)
  | number (value : Number)
  | string (value : String)
  | array (items : List Source)
  | object (members : List (Option String × Source))
  | unreadable
deriving Repr, Inhabited

namespace Source

/-- A string literal is a sequence of characters and of sixteen-bit units given
by number. -/
inductive Piece where
  | char (value : Char)
  | unit (value : Nat)

def hexValue? (digit : Char) : Option Nat :=
  if digit.isDigit then some (digit.toNat - '0'.toNat)
  else if 'a' ≤ digit ∧ digit ≤ 'f' then some (digit.toNat - 'a'.toNat + 10)
  else if 'A' ≤ digit ∧ digit ≤ 'F' then some (digit.toNat - 'A'.toNat + 10)
  else none

def unitValue? (first second third fourth : Char) : Option Nat :=
  match hexValue? first, hexValue? second, hexValue? third, hexValue? fourth with
  | some a, some b, some c, some d => some (((a * 16 + b) * 16 + c) * 16 + d)
  | _, _, _, _ => none

/-- The character that a letter behind a backslash stands for. -/
def unescape? : Char → Option Char
  | '"' => some '"'
  | '\\' => some '\\'
  | '/' => some '/'
  | 'b' => some '\x08'
  | 'f' => some '\x0c'
  | 'n' => some '\n'
  | 'r' => some '\r'
  | 't' => some '\t'
  | _ => none

/-- The pieces of a string literal behind its opening mark, and what follows the
closing one.  Controls below the space must be escaped. -/
def readPieces? : List Char → Option (List Piece × List Char)
  | [] => none
  | '"' :: rest => some ([], rest)
  | '\\' :: 'u' :: first :: second :: third :: fourth :: rest =>
      match unitValue? first second third fourth, readPieces? rest with
      | some value, some (pieces, remaining) => some (.unit value :: pieces, remaining)
      | _, _ => none
  | '\\' :: letter :: rest =>
      match unescape? letter, readPieces? rest with
      | some value, some (pieces, remaining) => some (.char value :: pieces, remaining)
      | _, _ => none
  | character :: rest =>
      if character.toNat < 0x20 || character == '\\' then none
      else
        match readPieces? rest with
        | some (pieces, remaining) => some (.char character :: pieces, remaining)
        | none => none

def isHighSurrogate (value : Nat) : Bool := 0xD800 ≤ value && value < 0xDC00

def isLowSurrogate (value : Nat) : Bool := 0xDC00 ≤ value && value < 0xE000

/-- The characters of a literal.  Two units that form a surrogate pair are one
character; a unit that is half a pair alone is refused. -/
def joinPieces? : List Piece → Option (List Char)
  | [] => some []
  | .char value :: rest => (joinPieces? rest).map (value :: ·)
  | .unit high :: .unit low :: rest =>
      if isHighSurrogate high then
        if isLowSurrogate low then
          (joinPieces? rest).map
            (Char.ofNat (0x10000 + (high - 0xD800) * 0x400 + (low - 0xDC00)) :: ·)
        else none
      else if isLowSurrogate high then none
      else (joinPieces? (.unit low :: rest)).map (Char.ofNat high :: ·)
  | .unit value :: rest =>
      if isHighSurrogate value || isLowSurrogate value then none
      else (joinPieces? rest).map (Char.ofNat value :: ·)

/-- Reads a string literal behind its opening mark.  The text is `none` when the
literal is well formed but no Unicode text. -/
def readString? (characters : List Char) : Option (Option String × List Char) :=
  match readPieces? characters with
  | some (pieces, rest) => some ((joinPieces? pieces).map String.ofList, rest)
  | none => none

structure NumberLiteral where
  negative : Bool
  whole : List Char
  /-- The digits behind the point, if there is one. -/
  decimals : Option (List Char)
  /-- The sign and the digits of the exponent, if there is one. -/
  exponent : Option (Bool × List Char)

/-- Splits off the digits at the front, of which there must be one. -/
def readDigits? (characters : List Char) : Option (List Char × List Char) :=
  match characters.takeWhile Char.isDigit with
  | [] => none
  | digits => some (digits, characters.dropWhile Char.isDigit)

/-- The digits in front of the point: a zero, or digits without a leading zero. -/
def readWhole? : List Char → Option (List Char × List Char)
  | '0' :: next :: rest => if next.isDigit then none else some (['0'], next :: rest)
  | characters => readDigits? characters

def readDecimals? : List Char → Option (Option (List Char) × List Char)
  | '.' :: rest => (readDigits? rest).map fun (digits, remaining) => (some digits, remaining)
  | characters => some (none, characters)

def readExponent? : List Char → Option (Option (Bool × List Char) × List Char)
  | mark :: '+' :: rest =>
      if mark = 'e' ∨ mark = 'E' then
        (readDigits? rest).map fun (digits, remaining) => (some (false, digits), remaining)
      else some (none, mark :: '+' :: rest)
  | mark :: '-' :: rest =>
      if mark = 'e' ∨ mark = 'E' then
        (readDigits? rest).map fun (digits, remaining) => (some (true, digits), remaining)
      else some (none, mark :: '-' :: rest)
  | mark :: rest =>
      if mark = 'e' ∨ mark = 'E' then
        (readDigits? rest).map fun (digits, remaining) => (some (false, digits), remaining)
      else some (none, mark :: rest)
  | [] => some (none, [])

def readNumber? (characters : List Char) : Option (NumberLiteral × List Char) := do
  let (negative, unsigned) :=
    match characters with
    | '-' :: rest => (true, rest)
    | _ => (false, characters)
  let (whole, afterWhole) ← readWhole? unsigned
  let (decimals, afterDecimals) ← readDecimals? afterWhole
  let (exponent, rest) ← readExponent? afterDecimals
  return (⟨negative, whole, decimals, exponent⟩, rest)

/-- The number a literal stands for.  Without point and exponent it is a whole
number if it fits into 64 bits; the negative zero and all else are binary64. -/
def NumberLiteral.value? (literal : NumberLiteral) : Option Number :=
  let whole := Text.digitsValue literal.whole
  match literal.decimals, literal.exponent with
  | none, none =>
      if literal.negative = false ∧ whole < Nat.pow 2 64 then some (.int whole)
      else if literal.negative = true ∧ 0 < whole ∧ whole ≤ Nat.pow 2 63 then some (.int (-whole))
      else
        ((Decimal.gatherWhole 0 literal.whole).toBinary64? literal.negative).map .float
  | decimals, exponent =>
      let gathered :=
        Decimal.gatherDecimals (Decimal.gatherWhole 0 literal.whole) (decimals.getD [])
      let shift : Int :=
        match exponent with
        | none => 0
        | some (true, digits) => -(Text.digitsValue digits : Int)
        | some (false, digits) => Text.digitsValue digits
      (Decimal.Gathered.toBinary64? literal.negative
        ⟨gathered.significand, gathered.exponent + shift⟩).map .float

def isSpace (character : Char) : Bool :=
  character == ' ' || character == '\n' || character == '\t' || character == '\r'

def skipSpace (characters : List Char) : List Char := characters.dropWhile isSpace

def dropWord? : List Char → List Char → Option (List Char)
  | [], characters => some characters
  | expected :: word, character :: rest =>
      if expected = character then dropWord? word rest else none
  | _ :: _, [] => none

/-- How deep arrays and objects may be nested to be readable. -/
def depthLimit : Nat := 127

mutual

/-- Reads one value.  `fuel` falls by one at each call, and of two calls in a row
one starts behind a character that was read, so twice the length of the text is
enough.  `room` is the number of arrays and objects that may still be entered. -/
def readValue? (fuel room : Nat) (characters : List Char) : Option (Source × List Char) :=
  match fuel with
  | 0 => none
  | fuel + 1 =>
      match skipSpace characters with
      | '"' :: rest =>
          (readString? rest).map fun (value, remaining) =>
            ((value.map Source.string).getD .unreadable, remaining)
      | '[' :: rest =>
          match skipSpace rest with
          | ']' :: remaining => some (if room = 0 then .unreadable else .array [], remaining)
          | _ =>
              (readItems? fuel (room - 1) rest).map fun (items, remaining) =>
                (if room = 0 then .unreadable else .array items, remaining)
      | '\x7b' :: rest =>
          match skipSpace rest with
          | '\x7d' :: remaining => some (if room = 0 then .unreadable else .object [], remaining)
          | _ =>
              (readMembers? fuel (room - 1) rest).map fun (members, remaining) =>
                (if room = 0 then .unreadable else .object members, remaining)
      | 'n' :: rest => (dropWord? "ull".toList rest).map fun remaining => (.null, remaining)
      | 't' :: rest => (dropWord? "rue".toList rest).map fun remaining => (.bool true, remaining)
      | 'f' :: rest => (dropWord? "alse".toList rest).map fun remaining => (.bool false, remaining)
      | other =>
          (readNumber? other).map fun (literal, remaining) =>
            ((literal.value?.map Source.number).getD .unreadable, remaining)

/-- Reads the items of an array that has one, up to the closing bracket. -/
def readItems? (fuel room : Nat) (characters : List Char) : Option (List Source × List Char) :=
  match fuel with
  | 0 => none
  | fuel + 1 =>
      match readValue? fuel room characters with
      | none => none
      | some (item, afterItem) =>
          match skipSpace afterItem with
          | ']' :: rest => some ([item], rest)
          | ',' :: rest =>
              (readItems? fuel room rest).map fun (items, remaining) => (item :: items, remaining)
          | _ => none

/-- Reads the members of an object that has one, up to the closing brace. -/
def readMembers? (fuel room : Nat) (characters : List Char) :
    Option (List (Option String × Source) × List Char) :=
  match fuel with
  | 0 => none
  | fuel + 1 =>
      match skipSpace characters with
      | '"' :: rest =>
          match readString? rest with
          | none => none
          | some (name, afterName) =>
              match skipSpace afterName with
              | ':' :: afterColon =>
                  match readValue? fuel room afterColon with
                  | none => none
                  | some (value, afterValue) =>
                      match skipSpace afterValue with
                      | '\x7d' :: remaining => some ([(name, value)], remaining)
                      | ',' :: more =>
                          (readMembers? fuel room more).map fun (members, remaining) =>
                            ((name, value) :: members, remaining)
                      | _ => none
              | _ => none
      | _ => none

end

def ofText? (text : String) : Option Source :=
  let characters := text.toList
  match readValue? (2 * characters.length + 2) depthLimit characters with
  | some (value, rest) => if skipSpace rest = [] then some value else none
  | none => none

mutual

/-- The value a tree stands for, in sorted form, if all of it is readable. -/
def toJson? : Source → Option Json
  | .null => some .null
  | .bool value => some (.bool value)
  | .number value => some (.number value)
  | .string value => some (.string value)
  | .array items => (itemsToJson? items).map .array
  | .object members => (membersToJson? members).map fun members => .object (sortMembers members)
  | .unreadable => none

def itemsToJson? : List Source → Option (List Json)
  | [] => some []
  | item :: rest =>
      match toJson? item, itemsToJson? rest with
      | some value, some values => some (value :: values)
      | _, _ => none

def membersToJson? : List (Option String × Source) → Option (List (String × Json))
  | [] => some []
  | (some name, value) :: rest =>
      match toJson? value, membersToJson? rest with
      | some value, some members => some ((name, value) :: members)
      | _, _ => none
  | (none, _) :: _ => none

end

end Source

/-- The JSON value a text stands for, in sorted form. -/
def ofText? (text : String) : Option Json :=
  (Source.ofText? text).bind Source.toJson?

mutual

def toSource : Json → Source
  | .null => .null
  | .bool value => .bool value
  | .number value => .number value
  | .string value => .string value
  | .array items => .array (itemsToSource items)
  | .object members => .object (membersToSource members)

def itemsToSource : List Json → List Source
  | [] => []
  | item :: rest => item.toSource :: itemsToSource rest

def membersToSource : List (String × Json) → List (Option String × Source)
  | [] => []
  | (name, value) :: rest => (some name, value.toSource) :: membersToSource rest

end

end IssueQuery.Json
