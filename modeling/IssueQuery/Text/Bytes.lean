namespace IssueQuery.Text

/-! Texts as bytes, and bytes as text: percent encoding and base64. -/

/-- The UTF-8 form of a text. -/
def bytes (text : String) : List UInt8 := text.toList.flatMap String.utf8EncodeChar

/-- A hexadecimal digit in upper case. -/
def upperHexDigit (value : Nat) : Char :=
  if value < 10 then Char.ofNat ('0'.toNat + value)
  else Char.ofNat ('A'.toNat + (value - 10))

/-- A byte as a percent sign and two hexadecimal digits. -/
def percentTriple (byte : UInt8) : List Char :=
  ['%', upperHexDigit (byte.toNat / 16), upperHexDigit (byte.toNat % 16)]

/-- Writes the bytes of a text, those of some class as the characters they
stand for and all others as percent triples. -/
def percentEncodeChars (keeps : UInt8 → Bool) (text : String) : List Char :=
  (bytes text).flatMap fun byte =>
    if keeps byte then [Char.ofNat byte.toNat] else percentTriple byte

/-- The characters that mean themselves everywhere in an address: ASCII letters
and digits, the hyphen, the underscore, the point and the tilde. -/
def isUnreserved (byte : UInt8) : Bool :=
  byte < 0x80 &&
    ((Char.ofNat byte.toNat).isAlphanum || "-_.~".toList.contains (Char.ofNat byte.toNat))

/-- A text as one segment of a path. -/
def percentEncode (text : String) : String :=
  String.ofList (percentEncodeChars isUnreserved text)

/-- The visible characters that mean themselves in the value of a query. -/
def isPlainInQuery (byte : UInt8) : Bool :=
  0x20 < byte && byte < 0x7F &&
    !("\"#$%&'+,/:;<=>?@[\\]^\x60\x7b|\x7d".toList.contains (Char.ofNat byte.toNat))

/-- A text as the value of a query. -/
def percentEncodeQuery (text : String) : String :=
  String.ofList (percentEncodeChars isPlainInQuery text)

def base64Digit (value : Nat) : Char :=
  if value < 26 then Char.ofNat ('A'.toNat + value)
  else if value < 52 then Char.ofNat ('a'.toNat + (value - 26))
  else if value < 62 then Char.ofNat ('0'.toNat + (value - 52))
  else if value = 62 then '+'
  else '/'

/-- Three bytes make four digits; missing bytes are padded. -/
def base64Chars : List UInt8 → List Char
  | [] => []
  | [first] =>
      let value := first.toNat * 2 ^ 16
      [base64Digit (value / 2 ^ 18), base64Digit (value / 2 ^ 12 % 64), '=', '=']
  | [first, second] =>
      let value := first.toNat * 2 ^ 16 + second.toNat * 2 ^ 8
      [base64Digit (value / 2 ^ 18), base64Digit (value / 2 ^ 12 % 64),
        base64Digit (value / 2 ^ 6 % 64), '=']
  | first :: second :: third :: rest =>
      let value := first.toNat * 2 ^ 16 + second.toNat * 2 ^ 8 + third.toNat
      base64Digit (value / 2 ^ 18) :: base64Digit (value / 2 ^ 12 % 64) ::
        base64Digit (value / 2 ^ 6 % 64) :: base64Digit (value % 64) :: base64Chars rest

def base64 (text : String) : String := String.ofList (base64Chars (bytes text))

end IssueQuery.Text
