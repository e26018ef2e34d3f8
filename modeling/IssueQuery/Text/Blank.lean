namespace IssueQuery.Text

/-! Blank characters and trimming.

A character is blank when it has the Unicode property `White_Space`.  Query
text may put blanks between any two tokens, and a value made of blanks alone
counts as unset, so one class serves both. -/

/-- The ranges of the Unicode property `White_Space`, by first and last code
point. -/
def blankRanges : List (Nat × Nat) :=
  [(0x09, 0x0D), (0x20, 0x20), (0x85, 0x85), (0xA0, 0xA0), (0x1680, 0x1680),
    (0x2000, 0x200A), (0x2028, 0x2029), (0x202F, 0x202F), (0x205F, 0x205F),
    (0x3000, 0x3000)]

/-- Whether a character separates words: the Unicode property `White_Space`. -/
def isBlank (character : Char) : Bool :=
  blankRanges.any fun range =>
    range.1 ≤ character.toNat && character.toNat ≤ range.2

/-- The characters from the first to the last that is not blank. -/
def trimChars (characters : List Char) : List Char :=
  ((characters.dropWhile isBlank).reverse.dropWhile isBlank).reverse

/-- A text without the blanks around it. -/
def trim (text : String) : String :=
  String.ofList (trimChars text.toList)

/-- The trimmed text, unless it consists of blanks only. -/
def nonblank? (text : String) : Option String :=
  let trimmed := trim text
  if trimmed = "" then none else some trimmed

end IssueQuery.Text
