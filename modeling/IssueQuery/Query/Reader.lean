import IssueQuery.Field.Selection
import IssueQuery.Operation.Basic
import IssueQuery.Query.Scan
import IssueQuery.Query.Statement

namespace IssueQuery

/-! Reading a query from its tokens.

A query is a sequence of statements with semicolons between them.  A statement
names an operation, gives its arguments in parentheses with commas between
them, and may name fields and presets in braces.  `finish` is the position of
the end of the text. -/

/-- The fault of finding the first of the tokens, or the end of the text, where
something else belongs. -/
def unmet (expected : Expectation) (finish : Nat) : List Located → SyntaxError
  | [] => ⟨.unmet expected none, finish, ""⟩
  | ⟨token, position⟩ :: _ => ⟨.unmet expected (some token), position, token.text⟩

def skipMark (mark : Mark) (expected : Expectation) (finish : Nat) :
    List Located → Except SyntaxError (List Located)
  | ⟨.mark found, position⟩ :: rest =>
      if found = mark then .ok rest
      else .error (unmet expected finish (⟨.mark found, position⟩ :: rest))
  | tokens => .error (unmet expected finish tokens)

def readArgument (finish : Nat) : List Located → Except SyntaxError (Argument × List Located)
  | ⟨.quoted value, _⟩ :: rest => .ok (⟨none, value⟩, rest)
  | ⟨.word name, _⟩ :: ⟨.mark .equals, _⟩ :: ⟨.word value, _⟩ :: rest =>
      .ok (⟨some name, value⟩, rest)
  | ⟨.word name, _⟩ :: ⟨.mark .equals, _⟩ :: ⟨.quoted value, _⟩ :: rest =>
      .ok (⟨some name, value⟩, rest)
  | ⟨.word _, _⟩ :: ⟨.mark .equals, _⟩ :: rest => .error (unmet .value finish rest)
  | ⟨.word value, _⟩ :: rest => .ok (⟨none, value⟩, rest)
  | tokens => .error (unmet .argument finish tokens)

theorem length_lt_of_readArgument {finish : Nat} {tokens rest : List Located}
    {argument : Argument} (read : readArgument finish tokens = .ok (argument, rest)) :
    rest.length < tokens.length := by
  unfold readArgument at read
  split at read <;> simp only [Except.ok.injEq, Prod.mk.injEq, reduceCtorEq] at read
  all_goals
    obtain ⟨-, rfl⟩ := read
    simp only [List.length_cons]
    omega

/-- Reads one argument or more, with commas between them. -/
def readArguments (finish : Nat) (tokens : List Located) :
    Except SyntaxError (List Argument × List Located) :=
  match _ : readArgument finish tokens with
  | .error fault => .error fault
  | .ok (argument, ⟨.mark .comma, _⟩ :: rest) =>
      (readArguments finish rest).map fun (arguments, remaining) =>
        (argument :: arguments, remaining)
  | .ok (argument, rest) => .ok ([argument], rest)
termination_by tokens.length
decreasing_by
  have := length_lt_of_readArgument ‹_›
  simp only [List.length_cons] at this
  omega

/-- Reads the arguments up to the closing parenthesis, of which there may be
none. -/
def readArgumentList (finish : Nat) :
    List Located → Except SyntaxError (List Argument × List Located)
  | ⟨.mark .closeParen, _⟩ :: rest => .ok ([], rest)
  | tokens => do
      let (arguments, afterArguments) ← readArguments finish tokens
      let rest ← skipMark .closeParen .closeParen finish afterArguments
      return (arguments, rest)

/-- Reads names of fields and presets as long as words follow. -/
def readFields : List Located → Except SyntaxError (List Field × List Located)
  | ⟨.word name, position⟩ :: rest =>
      match Field.ofNameOrPreset? name with
      | none => .error ⟨.unknownField name, position, name⟩
      | some fields =>
          (readFields rest).map fun (more, remaining) => (fields ++ more, remaining)
  | tokens => .ok ([], tokens)

/-- Reads the fields in braces, if an opening brace follows.  The braces must
not be empty. -/
def readProjection (finish : Nat) :
    List Located → Except SyntaxError (Option (List String) × List Located)
  | ⟨.mark .openBrace, position⟩ :: tokens => do
      let (fields, afterFields) ← readFields tokens
      let rest ← skipMark .closeBrace .closeBrace finish afterFields
      if fields.isEmpty then
        throw ⟨.emptyProjection, position, Token.text (.mark .openBrace)⟩
      return (some ((Field.distinct fields).map Field.name), rest)
  | tokens => .ok (none, tokens)

def readStatement (finish : Nat) : List Located → Except SyntaxError (Statement × List Located)
  | ⟨.word name, position⟩ :: tokens => do
      if (Operation.ofName? name).isNone then
        throw ⟨.unknownOperation name, position, name⟩
      let afterOpen ← skipMark .openParen .openParen finish tokens
      let (arguments, afterArguments) ← readArgumentList finish afterOpen
      let (fields, rest) ← readProjection finish afterArguments
      return (⟨name, arguments, fields⟩, rest)
  | tokens => .error (unmet .operationName finish tokens)

/-- The tokens from the first that is no semicolon. -/
def skipSemicolons : List Located → List Located
  | ⟨.mark .semicolon, _⟩ :: rest => skipSemicolons rest
  | tokens => tokens

-- Every reader moves forward.
theorem length_lt_of_skipMark {mark : Mark} {expected : Expectation} {finish : Nat}
    {tokens rest : List Located} (read : skipMark mark expected finish tokens = .ok rest) :
    rest.length < tokens.length := by
  unfold skipMark at read
  split at read
  · split at read
    · cases read
      simp
    · cases read
  · cases read

theorem length_lt_of_readArguments {finish : Nat} {tokens rest : List Located}
    {arguments : List Argument} (read : readArguments finish tokens = .ok (arguments, rest)) :
    rest.length < tokens.length := by
  fun_induction readArguments finish tokens generalizing arguments with
  | case1 => cases read
  | case2 tokens argument position more argumentRead ih =>
      cases innerRead : readArguments finish more with
      | error fault => rw [innerRead] at read; cases read
      | ok inner =>
          rw [innerRead] at read
          cases read
          have := length_lt_of_readArgument argumentRead
          have := ih innerRead
          simp only [List.length_cons] at *
          omega
  | case3 tokens argument remaining notComma argumentRead =>
      cases read
      exact length_lt_of_readArgument argumentRead

theorem length_lt_of_readArgumentList {finish : Nat} {tokens rest : List Located}
    {arguments : List Argument}
    (read : readArgumentList finish tokens = .ok (arguments, rest)) :
    rest.length < tokens.length := by
  unfold readArgumentList at read
  split at read
  · cases read
    simp
  · cases argumentsRead : readArguments finish tokens with
    | error fault => rw [argumentsRead] at read; cases read
    | ok inner =>
        rw [argumentsRead] at read
        cases closed : skipMark .closeParen .closeParen finish inner.2 with
        | error fault => simp [bind, Except.bind, closed] at read
        | ok remaining =>
            simp only [bind, Except.bind, closed, pure, Except.pure, Except.ok.injEq,
              Prod.mk.injEq] at read
            obtain ⟨-, rfl⟩ := read
            have := length_lt_of_readArguments argumentsRead
            have := length_lt_of_skipMark closed
            omega

theorem length_le_of_readFields {tokens rest : List Located} {fields : List Field}
    (read : readFields tokens = .ok (fields, rest)) : rest.length ≤ tokens.length := by
  fun_induction readFields tokens generalizing fields with
  | case1 => cases read
  | case2 name position tail chosen known ih =>
      cases innerRead : readFields tail with
      | error fault => rw [innerRead] at read; cases read
      | ok inner =>
          rw [innerRead] at read
          cases read
          have := ih innerRead
          simp only [List.length_cons]
          omega
  | case3 => cases read; simp

theorem length_le_of_readProjection {finish : Nat} {tokens rest : List Located}
    {fields : Option (List String)} (read : readProjection finish tokens = .ok (fields, rest)) :
    rest.length ≤ tokens.length := by
  unfold readProjection at read
  split at read
  · rename_i position tail
    cases fieldsRead : readFields tail with
    | error fault => rw [fieldsRead] at read; cases read
    | ok inner =>
        rw [fieldsRead] at read
        cases closed : skipMark .closeBrace .closeBrace finish inner.2 with
        | error fault => simp [bind, Except.bind, closed] at read
        | ok remaining =>
            simp only [bind, Except.bind, closed] at read
            split at read
            · cases read
            · cases read
              have := length_le_of_readFields fieldsRead
              have := length_lt_of_skipMark closed
              simp only [List.length_cons]
              omega
  · cases read
    simp

theorem length_lt_of_readStatement {finish : Nat} {tokens rest : List Located}
    {statement : Statement} (read : readStatement finish tokens = .ok (statement, rest)) :
    rest.length < tokens.length := by
  unfold readStatement at read
  split at read
  · rename_i name position tail
    simp only [bind, Except.bind, pure, Except.pure] at read
    split at read
    · cases read
    · cases opened : skipMark .openParen .openParen finish tail with
      | error fault => simp [opened] at read
      | ok afterOpen =>
          simp only [opened] at read
          cases listed : readArgumentList finish afterOpen with
          | error fault => simp [listed] at read
          | ok inner =>
              simp only [listed] at read
              cases projected : readProjection finish inner.2 with
              | error fault => simp [projected] at read
              | ok shown =>
                  simp only [projected, Except.ok.injEq, Prod.mk.injEq] at read
                  obtain ⟨-, rfl⟩ := read
                  have := length_lt_of_skipMark opened
                  have := length_lt_of_readArgumentList listed
                  have := length_le_of_readProjection projected
                  simp only [List.length_cons]
                  omega
  · cases read

theorem length_skipSemicolons_le (tokens : List Located) :
    (skipSemicolons tokens).length ≤ tokens.length := by
  fun_induction skipSemicolons tokens with
  | case1 position rest ih => simp only [List.length_cons]; omega
  | case2 => simp

/-- Reads statements up to the end of the text, with one semicolon or more
between two of them and any number around them. -/
def readStatements (finish : Nat) (tokens : List Located) :
    Except SyntaxError (List Statement) :=
  match skipSemicolons tokens, length_skipSemicolons_le tokens with
  | [], _ => .ok []
  | first :: others, _ =>
      match _ : readStatement finish (first :: others) with
      | .error fault => .error fault
      | .ok (statement, []) => .ok [statement]
      | .ok (statement, ⟨.mark .semicolon, _⟩ :: rest) =>
          (readStatements finish rest).map (statement :: ·)
      | .ok (_, rest) => .error (unmet .separator finish rest)
termination_by tokens.length
decreasing_by
  have := length_lt_of_readStatement ‹_›
  simp only [List.length_cons] at *
  omega

/-- Reads a query from its tokens.  There must be a statement. -/
def Query.ofTokens? (finish : Nat) (tokens : List Located) : Except SyntaxError Query := do
  let statements ← readStatements finish tokens
  if statements.isEmpty then throw ⟨.emptyQuery, finish, ""⟩
  return ⟨statements⟩

def Query.parse (text : String) : Except SyntaxError Query := do
  let tokenized ← tokenize text
  Query.ofTokens? tokenized.finish tokenized.tokens

/-- Whether a query reads from the service.  An operation that is not known
counts as one that does. -/
def Query.needsService (query : Query) : Bool :=
  query.statements.any fun statement =>
    ((Operation.ofName? statement.operation).map Operation.isRemote).getD true

end IssueQuery
