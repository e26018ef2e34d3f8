import IssueQuery.Proofs.Derivation
import IssueQuery.Proofs.Layout
import Mathlib.Data.Set.List

namespace IssueQuery

/-! Writing queries down.

Every query that can be read can be written in one form, in which every value is
quoted and presets are replaced by fields, and is read back from it.
-/

def Argument.written (argument : Argument) : String :=
  let value := "\"" ++ String.ofList (argument.value.toList.flatMap escapeQuote) ++ "\""
  match argument.name with
  | none => value
  | some name => name ++ "=" ++ value

def Statement.written (statement : Statement) : String :=
  let call := statement.operation ++ "(" ++
    ", ".intercalate (statement.arguments.map Argument.written) ++ ")"
  match statement.fields with
  | none => call
  | some names => call ++ " \x7b " ++ " ".intercalate names ++ " \x7d"

def Query.written (query : Query) : String :=
  "; ".intercalate (query.statements.map Statement.written)

structure Argument.Printable (argument : Argument) : Prop where
  name : ∀ name ∈ argument.name, IsWord name
  value : argument.value.toList.getLast? ≠ some '\\'

structure Statement.Printable (statement : Statement) : Prop where
  operation : ∃ operation : Operation, operation.name = statement.operation
  arguments : ∀ argument ∈ statement.arguments, argument.Printable
  fields : ∀ names ∈ statement.fields,
    names ≠ [] ∧ names.Nodup ∧ ∀ name ∈ names, ∃ field : Field, field.name = name

structure Query.Printable (query : Query) : Prop where
  nonempty : query.statements ≠ []
  statements : ∀ statement ∈ query.statements, statement.Printable

section Intercalate

variable {α β : Type} {separator : List α} {lists : List (List α)}

theorem intercalate_cons (first : List α) (rest : List (List α)) :
    separator.intercalate (first :: rest) = first ++ rest.flatMap (separator ++ ·) := by
  induction rest generalizing first with
  | nil => simp
  | cons next others ih => simp [ih next]

theorem flatMap_intercalate (spell : α → List β) :
    (separator.intercalate lists).flatMap spell =
      (separator.flatMap spell).intercalate (lists.map (·.flatMap spell)) := by
  cases lists with
  | nil => rfl
  | cons first rest =>
      simp only [intercalate_cons, List.map_cons, List.flatMap_append, List.flatMap_assoc,
        List.flatMap_map]

theorem map_intercalate (transform : α → β) :
    (separator.intercalate lists).map transform =
      (separator.map transform).intercalate (lists.map (·.map transform)) := by
  simp only [List.map_eq_flatMap, flatMap_intercalate]

theorem mem_intercalate_of_mem {list : List α} {value : α} (listed : list ∈ lists)
    (member : value ∈ list) : value ∈ separator.intercalate lists := by
  cases lists with
  | nil => cases listed
  | cons first rest =>
      rw [intercalate_cons, List.mem_append, List.mem_flatMap]
      rcases List.mem_cons.mp listed with rfl | later
      · exact .inl member
      · exact .inr ⟨list, later, List.mem_append_right _ member⟩

end Intercalate

theorem Text.isBlank_space : Text.isBlank ' ' = true := by decide

theorem Operation.isWord_name (operation : Operation) : IsWord operation.name := by
  cases operation <;> exact ⟨by decide, List.all_eq_true.mp (by decide)⟩

theorem Field.isWord_name (field : Field) : IsWord field.name := by
  cases field <;> exact ⟨by decide, List.all_eq_true.mp (by decide)⟩

/-- Tokens with the gaps behind them as characters. -/
def spell (body : List (Token × List Char)) : List Char :=
  body.flatMap fun entry => entry.1.written ++ entry.2

@[simp] theorem spell_nil : spell [] = [] := rfl

@[simp] theorem spell_cons (token : Token) (gap : List Char) (rest : List (Token × List Char)) :
    spell ((token, gap) :: rest) = token.written ++ gap ++ spell rest := rfl

@[simp] theorem spell_append (first second : List (Token × List Char)) :
    spell (first ++ second) = spell first ++ spell second := List.flatMap_append

@[simp] theorem spell_intercalate (separator : List (Token × List Char))
    (bodies : List (List (Token × List Char))) :
    spell (separator.intercalate bodies) = (spell separator).intercalate (bodies.map spell) :=
  flatMap_intercalate _

/-- Tokens that can stand side by side with others.  In `body` every token has the
gap behind it. -/
structure Composable (body : List (Token × List Char)) : Prop where
  writable : ∀ entry ∈ body, entry.1.Writable
  gapsBlank : ∀ entry ∈ body, ∀ character ∈ entry.2, Text.isBlank character = true
  wordsApart : body.IsChain fun first second =>
    first.1.isWord = true → second.1.isWord = true → first.2 ≠ []
  ended : ∀ last ∈ body.getLast?, last.1.isWord = true → last.2 ≠ []

namespace Composable

variable {body others separator : List (Token × List Char)}

theorem wellFormed (composable : Composable body) : Layout.WellFormed ⟨[], body⟩ where
  leadBlank := by simp
  writable := composable.writable
  gapsBlank := composable.gapsBlank
  wordsApart := composable.wordsApart

theorem nil : Composable [] := ⟨by simp, by simp, .nil, by simp⟩

theorem append (first : Composable body) (second : Composable others) :
    Composable (body ++ others) where
  writable := List.forall_mem_append.mpr ⟨first.writable, second.writable⟩
  gapsBlank := List.forall_mem_append.mpr ⟨first.gapsBlank, second.gapsBlank⟩
  wordsApart := List.isChain_append.mpr
    ⟨first.wordsApart, second.wordsApart, fun last isLast _ _ isWord _ =>
      first.ended last isLast isWord⟩
  ended := by
    intro last isLast
    rw [List.getLast?_append] at isLast
    cases othersLast : others.getLast? with
    | none =>
        rw [othersLast, Option.none_or] at isLast
        exact first.ended last isLast
    | some found =>
        rw [othersLast, Option.some_or] at isLast
        exact second.ended last (othersLast ▸ isLast)

theorem flatMap {α : Type} {values : List α} {entries : α → List (Token × List Char)}
    (each : ∀ value ∈ values, Composable (entries value)) :
    Composable (values.flatMap entries) := by
  induction values with
  | nil => exact nil
  | cons value rest ih =>
      rw [List.flatMap_cons]
      exact (each value (by simp)).append (ih fun other member => each other (by simp [member]))

theorem intercalate (between : Composable separator) {bodies : List (List (Token × List Char))}
    (each : ∀ body ∈ bodies, Composable body) : Composable (separator.intercalate bodies) := by
  cases bodies with
  | nil => exact nil
  | cons first rest =>
      rw [intercalate_cons]
      exact (each first (by simp)).append
        (flatMap fun body member => between.append (each body (by simp [member])))

end Composable

theorem Layout.bare_tokensFrom (layout : Layout) (position : Nat) :
    bare (layout.tokensFrom position) = layout.body.map Prod.fst := by
  have located : ∀ body position, bare (Layout.locate position body) = body.map Prod.fst := by
    intro body
    induction body with
    | nil => exact fun _ => rfl
    | cons entry rest ih =>
        intro position
        rw [Layout.locate, bare_cons, ih, List.map_cons]
  exact located layout.body _

namespace Argument

variable {argument : Argument}

/-- The derivation of a written argument. -/
def tree (argument : Argument) : ArgumentTree :=
  match argument.name with
  | none => .positional (.quoted argument.value)
  | some name => .named name (.quoted argument.value)

/-- The layout of a written argument. -/
def entries (argument : Argument) : List (Token × List Char) :=
  argument.tree.tokens.map (·, [])

@[simp] theorem argument_tree (argument : Argument) : argument.tree.argument = argument := by
  obtain ⟨name, value⟩ := argument
  cases name <;> rfl

@[simp] theorem map_entries (argument : Argument) :
    argument.entries.map Prod.fst = argument.tree.tokens := by
  simp [entries, Function.comp_def]

@[simp] theorem spell_entries (argument : Argument) :
    spell argument.entries = argument.written.toList := by
  obtain ⟨name, value⟩ := argument
  cases name <;> simp [entries, tree, written, ArgumentTree.tokens, ValueTree.token, Token.written,
    Mark.char]

theorem Printable.composable (printable : argument.Printable) : Composable argument.entries := by
  obtain ⟨name, value⟩ := argument
  obtain ⟨word, closed⟩ := printable
  cases name with
  | none =>
      constructor <;> simp [entries, tree, ArgumentTree.tokens, ValueTree.token, Token.Writable,
        Token.isWord, closed]
  | some name =>
      have isWord := word name rfl
      constructor <;> simp [entries, tree, ArgumentTree.tokens, ValueTree.token, Token.Writable,
        Token.isWord, closed, isWord]

end Argument

namespace Statement

variable {statement : Statement}

/-- The layout from the closing parenthesis of a written statement on. -/
def closing (fields : Option (List String)) : List (Token × List Char) :=
  match fields with
  | none => [(.mark .closeParen, [])]
  | some names =>
      (.mark .closeParen, [' ']) :: (.mark .openBrace, [' ']) ::
        (names.map (fun name => (.word name, [' '])) ++ [(.mark .closeBrace, [])])

/-- The layout of a written statement. -/
def entries (statement : Statement) : List (Token × List Char) :=
  [(.word statement.operation, []), (.mark .openParen, [])] ++
    ([(Token.mark .comma, [' '])].intercalate (statement.arguments.map Argument.entries) ++
      closing statement.fields)

theorem spell_names {names : List String} (nonempty : names ≠ []) :
    spell (names.map fun name => (.word name, [' '])) =
      [' '].intercalate (names.map String.toList) ++ [' '] := by
  induction names with
  | nil => exact absurd rfl nonempty
  | cons name rest ih =>
      cases rest with
      | nil => simp [Token.written]
      | cons next others =>
          rw [List.map_cons, spell_cons, ih (List.cons_ne_nil next others)]
          simp [Token.written]

theorem Printable.spell_entries (printable : statement.Printable) :
    spell statement.entries = statement.written.toList := by
  obtain ⟨operation, arguments, fields⟩ := statement
  cases fields with
  | none =>
      simp [entries, closing, written, String.toList_intercalate, Token.written, Mark.char,
        Function.comp_def]
  | some names =>
      obtain ⟨nonempty, -, -⟩ := printable.fields names rfl
      simp [entries, closing, written, String.toList_intercalate, Token.written, Mark.char,
        Function.comp_def, spell_names nonempty]

theorem composable_closing {fields : Option (List String)}
    (words : ∀ names ∈ fields, ∀ name ∈ names, IsWord name) : Composable (closing fields) := by
  cases fields with
  | none => constructor <;> simp [closing, Token.Writable, Token.isWord]
  | some names =>
      have parens : Composable [(.mark .closeParen, [' ']), (.mark .openBrace, [' '])] := by
        constructor <;> simp [Token.Writable, Token.isWord, Text.isBlank_space]
      have brace : Composable [(.mark .closeBrace, [])] := by
        constructor <;> simp [Token.Writable, Token.isWord]
      have named : ∀ name ∈ names, Composable [(.word name, [' '])] := by
        intro name member
        have isWord := words names rfl name member
        constructor <;> simp [Token.Writable, isWord, Text.isBlank_space]
      have body : Composable (names.map fun name => (.word name, [' '])) := by
        rw [List.map_eq_flatMap]
        exact Composable.flatMap named
      exact parens.append (body.append brace)

theorem Printable.composable (printable : statement.Printable) :
    Composable statement.entries := by
  obtain ⟨operation, operationName⟩ := printable.operation
  have isWord : IsWord statement.operation := operationName ▸ operation.isWord_name
  have call : Composable [(.word statement.operation, []), (.mark .openParen, [])] := by
    constructor <;> simp [Token.Writable, Token.isWord, isWord]
  have comma : Composable [(.mark .comma, [' '])] := by
    constructor <;> simp [Token.Writable, Token.isWord, Text.isBlank_space]
  have arguments : ∀ body ∈ statement.arguments.map Argument.entries, Composable body := by
    intro body member
    obtain ⟨argument, listed, rfl⟩ := List.mem_map.mp member
    exact (printable.arguments argument listed).composable
  have closed : Composable (closing statement.fields) := by
    refine composable_closing fun names chosen name member => ?_
    obtain ⟨-, -, known⟩ := printable.fields names chosen
    obtain ⟨field, rfl⟩ := known name member
    exact field.isWord_name
  exact call.append ((comma.intercalate arguments).append closed)

/-- A written statement is derived, with every name a field. -/
theorem Printable.exists_tree (printable : statement.Printable) :
    ∃ tree : StatementTree, tree.statement = statement ∧
      tree.tokens = statement.entries.map Prod.fst := by
  obtain ⟨operation, arguments, fields⟩ := statement
  obtain ⟨known, rfl⟩ := printable.operation
  have argumentsBack : arguments.map (ArgumentTree.argument ∘ Argument.tree) = arguments := by
    simp [Function.comp_def]
  cases fields with
  | none =>
      refine ⟨⟨known, arguments.map Argument.tree, none⟩, ?_, ?_⟩
      · simp [StatementTree.statement, argumentsBack]
      · simp [StatementTree.tokens, StatementTree.argumentTokens, StatementTree.projectionTokens,
          entries, closing, map_intercalate, Function.comp_def]
  | some names =>
      obtain ⟨nonempty, distinct, fieldNames⟩ := printable.fields names rfl
      obtain ⟨chosen, rfl⟩ := (Set.range_list_map Field.name).superset fieldNames
      obtain ⟨first, others, rfl⟩ := List.exists_cons_of_ne_nil (by simpa using nonempty)
      -- The names are distinct, so that none of them is removed as a repetition.
      let projection : ProjectionTree := ⟨.ofField first, others.map .ofField⟩
      have names : projection.names = (first :: others).map Field.name := by
        rw [← eraseDups_of_nodup distinct]
        simp [projection, ProjectionTree.names, ProjectionTree.nameTrees, NameTree.fields,
          List.flatMap_map, ← List.map_eq_flatMap]
      refine ⟨⟨known, arguments.map Argument.tree, some projection⟩, ?_, ?_⟩
      · simp [StatementTree.statement, argumentsBack, names]
      · simp [projection, StatementTree.tokens, StatementTree.argumentTokens,
          StatementTree.projectionTokens, ProjectionTree.tokens, ProjectionTree.nameTrees,
          NameTree.token, NameTree.text, entries, closing, map_intercalate, Function.comp_def]

end Statement

namespace Query

variable {query : Query}

def entries (query : Query) : List (Token × List Char) :=
  [(Token.mark .semicolon, [' '])].intercalate (query.statements.map Statement.entries)

theorem Printable.spell_entries (printable : query.Printable) :
    spell query.entries = query.written.toList := by
  have each : query.statements.map (spell ∘ Statement.entries) =
      query.statements.map (String.toList ∘ Statement.written) :=
    List.map_congr_left fun statement listed => (printable.statements statement listed).spell_entries
  simp [entries, written, String.toList_intercalate, Token.written, Mark.char, each]

theorem Printable.composable (printable : query.Printable) : Composable query.entries := by
  have semicolon : Composable [(.mark .semicolon, [' '])] := by
    constructor <;> simp [Token.Writable, Token.isWord, Text.isBlank_space]
  refine semicolon.intercalate fun body member => ?_
  obtain ⟨statement, listed, rfl⟩ := List.mem_map.mp member
  exact (printable.statements statement listed).composable

theorem Printable.exists_tree (printable : query.Printable) :
    ∃ tree : QueryTree, tree.query = query ∧ tree.tokens = query.entries.map Prod.fst := by
  obtain ⟨statements⟩ := query
  have derived : ∀ entry ∈ statements.map (fun statement =>
      (statement, statement.entries.map Prod.fst)), entry ∈
        Set.range fun tree : StatementTree => (tree.statement, tree.tokens) := by
    intro entry member
    obtain ⟨statement, listed, rfl⟩ := List.mem_map.mp member
    obtain ⟨tree, meaning, tokens⟩ := (printable.statements statement listed).exists_tree
    exact ⟨tree, Prod.ext meaning tokens⟩
  obtain ⟨trees, mapped⟩ := (Set.range_list_map _).superset derived
  have meanings : trees.map StatementTree.statement = statements := by
    simpa [Function.comp_def] using congrArg (List.map Prod.fst) mapped
  have tokens : trees.map StatementTree.tokens =
      statements.map fun statement => statement.entries.map Prod.fst := by
    simpa [Function.comp_def] using congrArg (List.map Prod.snd) mapped
  cases trees with
  | nil => exact absurd meanings.symm printable.nonempty
  | cons first others =>
      refine ⟨⟨0, first, others.map fun tree => (0, tree), 0⟩, ?_, ?_⟩
      · simpa [QueryTree.query, Function.comp_def] using meanings
      · have shown : (entries ⟨statements⟩).map Prod.fst =
            [Token.mark .semicolon].intercalate ((first :: others).map StatementTree.tokens) := by
          rw [tokens]
          simp [entries, map_intercalate, Function.comp_def]
        rw [shown, List.map_cons, intercalate_cons]
        simp [QueryTree.tokens, QueryTree.furtherTokens, semicolons, List.flatMap_map]

/-- A printable query is read back from how it is written. -/
theorem Printable.parse_written (printable : query.Printable) :
    Query.parse query.written = .ok query := by
  obtain ⟨tree, meaning, tokens⟩ := printable.exists_tree
  have characters : Layout.characters ⟨[], query.entries⟩ = query.written.toList :=
    printable.spell_entries
  have scanned := scan_eq_ok_iff.mpr
    ⟨⟨[], query.entries⟩, printable.composable.wellFormed, characters, rfl⟩
  refine parse_eq_ok_iff_derives.mpr
    ⟨tree, ⟨_, bind_eq_ok_iff.mpr ⟨_, scanned, rfl⟩, ?_⟩, meaning⟩
  rw [Layout.bare_tokensFrom, tokens]

end Query

section Derived

theorem ValueTree.closed {tree : ValueTree} (writable : tree.token.Writable) :
    tree.text.toList.getLast? ≠ some '\\' := by
  cases tree with
  | quoted text => exact writable
  | word text =>
      obtain ⟨-, parts⟩ := writable
      intro last
      have isPart := parts '\\' (List.mem_of_getLast? last)
      cases isPart

theorem ArgumentTree.printable {tree : ArgumentTree}
    (writable : ∀ token ∈ tree.tokens, token.Writable) : tree.argument.Printable := by
  cases tree with
  | named name value =>
      refine ⟨?_, value.closed (writable _ (by simp [tokens]))⟩
      rintro _ ⟨⟩
      exact writable (.word name) (by simp [tokens])
  | positional value =>
      refine ⟨?_, value.closed (writable _ (by simp [tokens]))⟩
      rintro _ ⟨⟩

theorem ProjectionTree.names_ne_nil (tree : ProjectionTree) : tree.names ≠ [] := by
  obtain ⟨field, rest, fields⟩ := List.exists_cons_of_ne_nil tree.first.fields_ne_nil
  simp [names, nameTrees, fields, List.eraseDups_cons]

theorem ProjectionTree.exists_field {tree : ProjectionTree} {name : String}
    (member : name ∈ tree.names) : ∃ field : Field, field.name = name := by
  rw [names_eq] at member
  obtain ⟨field, -, named⟩ := List.mem_map.mp member
  exact ⟨field, named⟩

theorem StatementTree.printable {tree : StatementTree}
    (writable : ∀ token ∈ tree.tokens, token.Writable) : tree.statement.Printable where
  operation := ⟨tree.operation, rfl⟩
  arguments := by
    intro argument listed
    obtain ⟨argumentTree, member, rfl⟩ := List.mem_map.mp listed
    refine argumentTree.printable fun token part => writable token ?_
    have inside : token ∈ argumentTokens tree.arguments :=
      mem_intercalate_of_mem (List.mem_map_of_mem member) part
    simp [tokens, inside]
  fields := by
    intro names chosen
    obtain ⟨projection, -, rfl⟩ := Option.map_eq_some_iff.mp chosen
    exact ⟨projection.names_ne_nil, nodup_eraseDups _, fun name => projection.exists_field⟩

theorem QueryTree.printable {tree : QueryTree}
    (writable : ∀ token ∈ tree.tokens, token.Writable) : tree.query.Printable where
  nonempty := List.cons_ne_nil _ _
  statements := by
    intro statement listed
    rcases List.mem_cons.mp listed with rfl | later
    · exact tree.first.printable fun token part => writable token (by simp [tokens, part])
    · obtain ⟨entry, member, rfl⟩ := List.mem_map.mp later
      refine entry.2.printable fun token part => writable token ?_
      have inside : token ∈ furtherTokens tree.others tree.trailing :=
        List.mem_append_left _ (List.mem_flatMap.mpr ⟨entry, member, by simp [part]⟩)
      simp [tokens, inside]

end Derived

theorem Layout.WellFormed.writable_token {layout : Layout} (wellFormed : layout.WellFormed)
    {position : Nat} {token : Token} (member : token ∈ bare (layout.tokensFrom position)) :
    token.Writable := by
  rw [Layout.bare_tokensFrom] at member
  obtain ⟨entry, listed, rfl⟩ := List.mem_map.mp member
  exact wellFormed.writable entry listed

theorem Query.printable_of_parse {text : String} {query : Query}
    (parsed : Query.parse text = .ok query) : query.Printable := by
  obtain ⟨tree, ⟨tokenized, split, tokens⟩, rfl⟩ := parse_eq_ok_iff_derives.mp parsed
  obtain ⟨located, scanned, equal⟩ := bind_eq_ok_iff.mp split
  cases equal
  obtain ⟨layout, wellFormed, -, rfl⟩ := scan_eq_ok_iff.mp scanned
  refine tree.printable fun token member => ?_
  exact wellFormed.writable_token (tokens ▸ member)

/-- Reading inverts writing on the printable queries, and these are all the
queries that are ever read. -/
theorem Query.parse_inverts_written :
    (∀ query : Query, query.Printable → Query.parse query.written = .ok query) ∧
    (∀ text query, Query.parse text = .ok query →
      query.Printable ∧ Query.parse query.written = Query.parse text) := by
  refine ⟨fun query printable => printable.parse_written, fun text query parsed => ?_⟩
  have printable := printable_of_parse parsed
  exact ⟨printable, by rw [parsed, printable.parse_written]⟩

/-- A query whose value holds quotation marks. -/
def Query.quoting : Query := ⟨[⟨"get", [⟨none, "say \"hi\""⟩], some ["key", "status"]⟩]⟩

theorem Query.quoting_printable : quoting.Printable where
  nonempty := List.cons_ne_nil _ _
  statements := by
    intro statement listed
    obtain rfl := List.mem_singleton.mp listed
    refine ⟨⟨.get, rfl⟩, ?_, ?_⟩
    · intro argument member
      obtain rfl := List.mem_singleton.mp member
      exact ⟨by simp, by decide⟩
    · rintro names ⟨⟩
      exact ⟨by decide, by decide, by simpa using ⟨⟨.key, rfl⟩, ⟨.status, rfl⟩⟩⟩

theorem Query.quoting_read_back :
    quoting.Printable ∧ Query.parse quoting.written = .ok quoting ∧
      Query.parse ";get(\"say \\\"hi\\\"\")\x7bminimal key\x7d" = .ok quoting ∧
      Query.parse quoting.written =
        Query.parse ";get(\"say \\\"hi\\\"\")\x7bminimal key\x7d" :=
  ⟨quoting_printable, parse_inverts_written.1 quoting quoting_printable, by decide +kernel,
    (parse_inverts_written.2 _ quoting (by decide +kernel)).2⟩

end IssueQuery
