import IssueQuery.Query.Fault

namespace IssueQuery

/-! Splitting a text into tokens. -/

/-- Reads a quoted text behind its opening mark: what it stands for, the number
of bytes up to and with the closing mark, and what follows.  A backslash in
front of a quotation mark makes the mark part of the text; any other backslash
stands for itself. -/
def readQuoted? : List Char → Option (List Char × Nat × List Char)
  | [] => none
  | '"' :: rest => some ([], 1, rest)
  | '\\' :: '"' :: rest =>
      (readQuoted? rest).map fun (text, width, remaining) => ('"' :: text, width + 2, remaining)
  | character :: rest =>
      (readQuoted? rest).map fun (text, width, remaining) =>
        (character :: text, width + character.utf8Size, remaining)

theorem length_lt_of_readQuoted? {characters text rest : List Char} {width : Nat}
    (read : readQuoted? characters = some (text, width, rest)) :
    rest.length < characters.length := by
  fun_induction readQuoted? characters generalizing text width with
  | case1 => simp at read
  | case2 tail =>
      simp only [Option.some.injEq, Prod.mk.injEq] at read
      obtain ⟨-, -, rfl⟩ := read
      simp
  | case3 tail ih =>
      obtain ⟨⟨inner, innerWidth, remaining⟩, innerRead, equal⟩ := Option.map_eq_some_iff.1 read
      simp only [Prod.mk.injEq] at equal
      obtain ⟨-, -, rfl⟩ := equal
      have := ih innerRead
      simp only [List.length_cons]
      omega
  | case4 character tail notQuote notEscape ih =>
      obtain ⟨⟨inner, innerWidth, remaining⟩, innerRead, equal⟩ := Option.map_eq_some_iff.1 read
      simp only [Prod.mk.injEq] at equal
      obtain ⟨-, -, rfl⟩ := equal
      have := ih innerRead
      simp only [List.length_cons]
      omega

/-- The tokens of characters that start at a position. -/
def scanFrom (position : Nat) (characters : List Char) : Except SyntaxError (List Located) :=
  match characters with
  | [] => .ok []
  | character :: rest =>
      if Text.isBlank character then
        scanFrom (position + character.utf8Size) rest
      else
        match Mark.ofChar? character with
        | some mark =>
            (scanFrom (position + character.utf8Size) rest).map (⟨.mark mark, position⟩ :: ·)
        | none =>
            if character = '"' then
              match read : readQuoted? rest with
              | none =>
                  .error ⟨.unterminatedText, position, String.ofList (character :: rest)⟩
              | some (text, width, remaining) =>
                  (scanFrom (position + 1 + width) remaining).map
                    (⟨.quoted (String.ofList text), position⟩ :: ·)
            else if isWordChar character then
              let word := character :: rest.takeWhile isWordChar
              (scanFrom (position + byteLength word) (rest.dropWhile isWordChar)).map
                (⟨.word (String.ofList word), position⟩ :: ·)
            else
              .error
                ⟨.unexpectedCharacter character, position, String.singleton character⟩
termination_by characters.length
decreasing_by
  all_goals simp only [List.length_cons]
  · omega
  · omega
  · have := length_lt_of_readQuoted? read
    omega
  · have := (List.dropWhile_sublist (p := isWordChar) (l := rest)).length_le
    omega

def scan (text : String) : Except SyntaxError (List Located) := scanFrom 0 text.toList

/-- A text as tokens.  Behind the last of them stands the end of the text. -/
structure Tokenized where
  tokens : List Located
  /-- The position of the end. -/
  finish : Nat
deriving DecidableEq, Repr, Inhabited

/-- The tokens of a text and where it ends. -/
def tokenize (text : String) : Except SyntaxError Tokenized := do
  return ⟨← scan text, text.utf8ByteSize⟩

end IssueQuery
