namespace IssueQuery.Toml

/-! Text values of settings files, in their four written forms.

The basic forms know escapes, the literal forms do not; either can stand on one
line or spread over several. -/

def hexValue? (digit : Char) : Option Nat :=
  if digit.isDigit then some (digit.toNat - '0'.toNat)
  else if 'a' ≤ digit ∧ digit ≤ 'f' then some (digit.toNat - 'a'.toNat + 10)
  else if 'A' ≤ digit ∧ digit ≤ 'F' then some (digit.toNat - 'A'.toNat + 10)
  else none

/-- The character whose number is written by hexadecimal digits. -/
def charOfDigits? (digits : List Char) : Option Char :=
  match digits.mapM hexValue? with
  | none => none
  | some values =>
      let code := values.foldl (fun total value => total * 16 + value) 0
      if code.isValidChar then some (Char.ofNat code) else none

/-- Whether a character must not stand in a text as itself: a control other than
the tab. -/
def isControl (character : Char) : Bool :=
  (character.toNat < 0x20 && character != '\t') || character.toNat == 0x7F

def unescape? : Char → Option Char
  | 'b' => some '\x08'
  | 't' => some '\t'
  | 'n' => some '\n'
  | 'f' => some '\x0c'
  | 'r' => some '\r'
  | '"' => some '"'
  | '\\' => some '\\'
  | _ => none

/-- Reads an escape behind its backslash. -/
def readEscape? : List Char → Option (Char × List Char)
  | 'u' :: rest =>
      if 4 ≤ rest.length then (charOfDigits? (rest.take 4)).map (·, rest.drop 4) else none
  | 'U' :: rest =>
      if 8 ≤ rest.length then (charOfDigits? (rest.take 8)).map (·, rest.drop 8) else none
  | letter :: rest => (unescape? letter).map (·, rest)
  | [] => none

theorem length_lt_of_readEscape? {characters rest : List Char} {character : Char}
    (read : readEscape? characters = some (character, rest)) :
    rest.length < characters.length := by
  unfold readEscape? at read
  split at read
  · split at read
    · obtain ⟨_, -, equal⟩ := Option.map_eq_some_iff.1 read
      cases equal
      simp only [List.length_drop, List.length_cons]
      omega
    · cases read
  · split at read
    · obtain ⟨_, -, equal⟩ := Option.map_eq_some_iff.1 read
      cases equal
      simp only [List.length_drop, List.length_cons]
      omega
    · cases read
  · obtain ⟨_, -, equal⟩ := Option.map_eq_some_iff.1 read
    cases equal
    simp
  · cases read

/-- Reads a basic text on one line, behind its opening mark. -/
def readBasic? (characters : List Char) : Option (List Char × List Char) :=
  match characters with
  | [] => none
  | '"' :: rest => some ([], rest)
  | '\\' :: rest =>
      match _ : readEscape? rest with
      | none => none
      | some (value, behind) =>
          (readBasic? behind).map fun (text, remaining) => (value :: text, remaining)
  | character :: rest =>
      if isControl character then none
      else (readBasic? rest).map fun (text, remaining) => (character :: text, remaining)
termination_by characters.length
decreasing_by
  · have := length_lt_of_readEscape? ‹_›
    simp only [List.length_cons]
    omega
  · simp

/-- Reads a literal text on one line, behind its opening mark. -/
def readLiteral? : List Char → Option (List Char × List Char)
  | [] => none
  | '\'' :: rest => some ([], rest)
  | character :: rest =>
      if isControl character then none
      else (readLiteral? rest).map fun (text, remaining) => (character :: text, remaining)

def isSpace (character : Char) : Bool := character == ' ' || character == '\t'

/-- Whether a backslash at the end of a line hides the line break: only spaces
stand between the two. -/
def endsLine (characters : List Char) : Bool :=
  match characters.dropWhile isSpace with
  | '\n' :: _ => true
  | '\r' :: '\n' :: _ => true
  | _ => false

/-- The characters from the first that is neither a space nor part of a line
break. -/
def skipLines : List Char → List Char
  | '\r' :: '\n' :: rest => skipLines rest
  | character :: rest =>
      if isSpace character || character == '\n' then skipLines rest else character :: rest
  | [] => []

theorem length_skipLines_le (characters : List Char) :
    (skipLines characters).length ≤ characters.length := by
  fun_induction skipLines characters with
  | case1 rest ih => simp only [List.length_cons]; omega
  | case2 character rest _ _ ih => simp only [List.length_cons]; omega
  | case3 => simp
  | case4 => simp

/-- Reads a basic text over several lines, behind its opening marks.  Up to two
quotation marks may stand in front of the closing three. -/
def readBasicLines? (characters : List Char) : Option (List Char × List Char) :=
  match characters with
  | [] => none
  | '"' :: '"' :: '"' :: '"' :: '"' :: rest => some (['"', '"'], rest)
  | '"' :: '"' :: '"' :: '"' :: rest => some (['"'], rest)
  | '"' :: '"' :: '"' :: rest => some ([], rest)
  | '\r' :: '\n' :: rest =>
      (readBasicLines? rest).map fun (text, remaining) => ('\n' :: text, remaining)
  | '\\' :: rest =>
      if endsLine rest then readBasicLines? (skipLines rest)
      else
        match _ : readEscape? rest with
        | none => none
        | some (value, behind) =>
            (readBasicLines? behind).map fun (text, remaining) => (value :: text, remaining)
  | character :: rest =>
      if isControl character && character != '\n' then none
      else (readBasicLines? rest).map fun (text, remaining) => (character :: text, remaining)
termination_by characters.length
decreasing_by
  · simp only [List.length_cons]
    omega
  · have := length_skipLines_le rest
    simp only [List.length_cons]
    omega
  · have := length_lt_of_readEscape? ‹_›
    simp only [List.length_cons]
    omega
  · simp

/-- Reads a literal text over several lines, behind its opening marks. -/
def readLiteralLines? : List Char → Option (List Char × List Char)
  | [] => none
  | '\'' :: '\'' :: '\'' :: '\'' :: '\'' :: rest => some (['\'', '\''], rest)
  | '\'' :: '\'' :: '\'' :: '\'' :: rest => some (['\''], rest)
  | '\'' :: '\'' :: '\'' :: rest => some ([], rest)
  | '\r' :: '\n' :: rest =>
      (readLiteralLines? rest).map fun (text, remaining) => ('\n' :: text, remaining)
  | character :: rest =>
      if isControl character && character != '\n' then none
      else (readLiteralLines? rest).map fun (text, remaining) => (character :: text, remaining)

/-- A line break right behind the opening marks is no part of the text. -/
def skipFirstBreak : List Char → List Char
  | '\n' :: rest => rest
  | '\r' :: '\n' :: rest => rest
  | characters => characters

/-- Reads a text value in any of the four forms. -/
def readText? : List Char → Option (List Char × List Char)
  | '"' :: '"' :: '"' :: rest => readBasicLines? (skipFirstBreak rest)
  | '"' :: rest => readBasic? rest
  | '\'' :: '\'' :: '\'' :: rest => readLiteralLines? (skipFirstBreak rest)
  | '\'' :: rest => readLiteral? rest
  | _ => none

/-- Whether a text has a character that only an escape can stand for. -/
def needsEscapes (text : List Char) : Bool :=
  text.any fun character => isControl character && character != '\n'

/-- Whether a character occurs three times in a row. -/
def hasTriple (character : Char) : List Char → Bool
  | first :: second :: third :: rest =>
      (first == character && second == character && third == character) ||
        hasTriple character (second :: third :: rest)
  | _ => false

def upperHex (value : Nat) : Char :=
  if value < 10 then Char.ofNat ('0'.toNat + value)
  else Char.ofNat ('A'.toNat + (value - 10))

/-- Writes the body of a basic text.  `allowed` quotation marks in a row stand
for themselves, and `left` of them still may; line breaks stand for themselves
if `keepsBreaks`. -/
def writeBasic (keepsBreaks : Bool) (allowed : Nat) : (left : Nat) → List Char → List Char
  | _, [] => []
  | left, character :: rest =>
      if character = '"' then
        match left with
        | 0 => '\\' :: '"' :: writeBasic keepsBreaks allowed allowed rest
        | left + 1 => '"' :: writeBasic keepsBreaks allowed left rest
      else
        let written :=
          if character = '\n' && keepsBreaks then ['\n']
          else
            match character with
            | '\x08' => ['\\', 'b']
            | '\t' => ['\\', 't']
            | '\n' => ['\\', 'n']
            | '\x0c' => ['\\', 'f']
            | '\r' => ['\\', 'r']
            | '\\' => ['\\', '\\']
            | other =>
                if isControl other then
                  ['\\', 'u', '0', '0', upperHex (other.toNat / 16), upperHex (other.toNat % 16)]
                else [other]
        written ++ writeBasic keepsBreaks allowed allowed rest

def tripleQuotes : List Char := ['"', '"', '"']

def tripleApostrophes : List Char := ['\'', '\'', '\'']

/-- Writes a text value in the first of the forms that shows it as it is, or else
with escapes. -/
def writeText (text : List Char) : List Char :=
  let hasBreak := text.contains '\n'
  let firstBreak := if hasBreak then ['\n'] else []
  if !needsEscapes text && !text.contains '\\' && !text.contains '"' && !hasBreak then
    '"' :: writeBasic false 0 0 text ++ ['"']
  else if !needsEscapes text && !text.contains '\'' && !hasBreak then
    '\'' :: text ++ ['\'']
  else if !needsEscapes text && !text.contains '\\' && !hasTriple '"' text then
    tripleQuotes ++ firstBreak ++ writeBasic true 2 2 text ++ tripleQuotes
  else if !needsEscapes text && !hasTriple '\'' text then
    tripleApostrophes ++ firstBreak ++ text ++ tripleApostrophes
  else if hasBreak then
    tripleQuotes ++ firstBreak ++ writeBasic true 2 2 text ++ tripleQuotes
  else '"' :: writeBasic false 0 0 text ++ ['"']

end IssueQuery.Toml
