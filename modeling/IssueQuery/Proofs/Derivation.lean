import IssueQuery.Proofs.Outcome
import IssueQuery.Proofs.Unambiguity

namespace IssueQuery

/-! The reader of queries and the grammar.

Every reader takes from the front of the tokens what some tree derives and
returns what the tree means (`_sound`), and it finds every tree that the tokens
in front of it allow (`_complete`).
-/

variable {finish : Nat} {located rest : List Located}

theorem skipMark_sound {mark : Mark} {expected : Expectation}
    (read : skipMark mark expected finish located = .ok rest) :
    bare located = .mark mark :: bare rest := by
  unfold skipMark at read
  split at read
  · split at read
    · rename_i same
      cases read
      rw [bare_cons, same]
    · cases read
  · cases read

theorem readArgument_sound {argument : Argument}
    (read : readArgument finish located = .ok (argument, rest)) :
    ∃ tree : ArgumentTree, tree.argument = argument ∧ bare located = tree.tokens ++ bare rest := by
  unfold readArgument at read
  split at read <;> simp only [Except.ok.injEq, Prod.mk.injEq, reduceCtorEq] at read
  · obtain ⟨rfl, rfl⟩ := read
    exact ⟨.positional (.quoted _), rfl, rfl⟩
  · obtain ⟨rfl, rfl⟩ := read
    exact ⟨.named _ (.word _), rfl, rfl⟩
  · obtain ⟨rfl, rfl⟩ := read
    exact ⟨.named _ (.quoted _), rfl, rfl⟩
  · obtain ⟨rfl, rfl⟩ := read
    exact ⟨.positional (.word _), rfl, rfl⟩

theorem readArguments_sound {arguments : List Argument}
    (read : readArguments finish located = .ok (arguments, rest)) :
    ∃ trees : List ArgumentTree, trees ≠ [] ∧ trees.map ArgumentTree.argument = arguments ∧
      bare located = StatementTree.argumentTokens trees ++ bare rest := by
  fun_induction readArguments finish located generalizing arguments with
  | case1 => cases read
  | case2 located argument position more argumentRead ih =>
      obtain ⟨⟨others, remaining⟩, othersRead, equal⟩ := map_eq_ok_iff.mp read
      cases equal
      obtain ⟨tree, rfl, shown⟩ := readArgument_sound argumentRead
      obtain ⟨trees, nonempty, rfl, othersShown⟩ := ih othersRead
      refine ⟨tree :: trees, by simp, rfl, ?_⟩
      rw [shown, bare_cons, othersShown, argumentTokens_cons nonempty]
      simp
  | case3 located argument remaining notComma argumentRead =>
      cases read
      obtain ⟨tree, rfl, shown⟩ := readArgument_sound argumentRead
      exact ⟨[tree], by simp, rfl, by simpa [StatementTree.argumentTokens] using shown⟩

theorem readArgumentList_sound {arguments : List Argument}
    (read : readArgumentList finish located = .ok (arguments, rest)) :
    ∃ trees : List ArgumentTree, trees.map ArgumentTree.argument = arguments ∧
      bare located = StatementTree.argumentTokens trees ++ .mark .closeParen :: bare rest := by
  unfold readArgumentList at read
  split at read
  · cases read
    exact ⟨[], rfl, rfl⟩
  · obtain ⟨⟨found, afterArguments⟩, argumentsRead, read⟩ := bind_eq_ok_iff.mp read
    obtain ⟨remaining, closed, read⟩ := bind_eq_ok_iff.mp read
    cases read
    obtain ⟨trees, -, rfl, shown⟩ := readArguments_sound argumentsRead
    exact ⟨trees, rfl, by rw [shown, skipMark_sound closed]⟩

theorem readFields_sound {fields : List Field} (read : readFields located = .ok (fields, rest)) :
    ∃ names : List NameTree, names.flatMap NameTree.fields = fields ∧
      bare located = names.map NameTree.token ++ bare rest := by
  fun_induction readFields located generalizing fields with
  | case1 => cases read
  | case2 name position tail chosen known ih =>
      obtain ⟨⟨others, remaining⟩, othersRead, equal⟩ := map_eq_ok_iff.mp read
      cases equal
      obtain ⟨tree, rfl, rfl⟩ := Field.ofNameOrPreset?_eq_some_iff.mp known
      obtain ⟨names, rfl, shown⟩ := ih othersRead
      exact ⟨tree :: names, by simp, by simp [shown, NameTree.token]⟩
  | case3 =>
      cases read
      exact ⟨[], rfl, rfl⟩

/-- The names of a projection are those of its distinct fields. -/
theorem ProjectionTree.names_eq (tree : ProjectionTree) :
    tree.names = (Field.distinct (tree.nameTrees.flatMap NameTree.fields)).map Field.name := by
  rw [Field.distinct_eq_eraseDups, ← eraseDups_map_of_injective Field.name_injective,
    List.map_flatMap]
  rfl

theorem readProjection_sound {fields : Option (List String)}
    (read : readProjection finish located = .ok (fields, rest)) :
    ∃ tree : Option ProjectionTree, tree.map ProjectionTree.names = fields ∧
      bare located = StatementTree.projectionTokens tree ++ bare rest := by
  unfold readProjection at read
  split at read
  · obtain ⟨⟨found, afterFields⟩, fieldsRead, read⟩ := bind_eq_ok_iff.mp read
    obtain ⟨remaining, closed, read⟩ := bind_eq_ok_iff.mp read
    split at read
    · cases read
    · rename_i nonempty
      cases read
      obtain ⟨names, rfl, shown⟩ := readFields_sound fieldsRead
      cases names with
      | nil => simp at nonempty
      | cons first others =>
          refine ⟨some ⟨first, others⟩, ?_, ?_⟩
          · simp only [Option.map_some, ProjectionTree.names_eq, ProjectionTree.nameTrees]
          · simp [shown, skipMark_sound closed, StatementTree.projectionTokens,
              ProjectionTree.tokens, ProjectionTree.nameTrees]
  · cases read
    exact ⟨none, rfl, rfl⟩

theorem readStatement_sound {statement : Statement}
    (read : readStatement finish located = .ok (statement, rest)) :
    ∃ tree : StatementTree, tree.statement = statement ∧
      bare located = tree.tokens ++ bare rest := by
  unfold readStatement at read
  split at read
  · rename_i name position tail
    split at read
    · cases read
    · rename_i known
      obtain ⟨afterOpen, opened, read⟩ := bind_eq_ok_iff.mp read
      obtain ⟨⟨arguments, afterArguments⟩, listed, read⟩ := bind_eq_ok_iff.mp read
      obtain ⟨⟨fields, remaining⟩, projected, read⟩ := bind_eq_ok_iff.mp read
      cases read
      obtain ⟨operation, called⟩ := Option.ne_none_iff_exists'.mp (by simpa using known)
      obtain ⟨trees, rfl, listShown⟩ := readArgumentList_sound listed
      obtain ⟨projection, rfl, projectionShown⟩ := readProjection_sound projected
      have named := Operation.name_of_ofName? called
      refine ⟨⟨operation, trees, projection⟩, ?_, ?_⟩
      · simp only [StatementTree.statement, named]
      · simp [StatementTree.tokens, named, skipMark_sound opened, listShown, projectionShown]
  · cases read

theorem skipSemicolons_sound (located : List Located) :
    ∃ count, bare located = semicolons count ++ bare (skipSemicolons located) := by
  fun_induction skipSemicolons located with
  | case1 position rest ih =>
      obtain ⟨count, shown⟩ := ih
      exact ⟨count + 1, by simp [shown, semicolons, List.replicate_succ]⟩
  | case2 => exact ⟨0, rfl⟩

/-- One round of the reader of statements. -/
theorem readStatements_eq (finish : Nat) (located : List Located) :
    readStatements finish located =
      match skipSemicolons located with
      | [] => .ok []
      | first :: others =>
          match readStatement finish (first :: others) with
          | .error fault => .error fault
          | .ok (statement, []) => .ok [statement]
          | .ok (statement, ⟨.mark .semicolon, _⟩ :: rest) =>
              (readStatements finish rest).map (statement :: ·)
          | .ok (_, rest) => .error (unmet .separator finish rest) := by
  rw [readStatements]
  split
  · rename_i nothing _
    rw [nothing]
  · rename_i first others _ found _
    rw [found]
    split <;> simp_all

/-- Without a statement there are only semicolons. -/
theorem readStatements_sound {statements : List Statement}
    (read : readStatements finish located = .ok statements) :
    (statements = [] ∧ ∃ count, bare located = semicolons count) ∨
      ∃ tree : QueryTree, tree.query = ⟨statements⟩ ∧ bare located = tree.tokens := by
  induction located using readStatements.induct finish generalizing statements with
  | case1 located _ nothing =>
      rw [readStatements_eq, nothing] at read
      cases read
      obtain ⟨count, shown⟩ := skipSemicolons_sound located
      exact .inl ⟨rfl, count, by simpa [nothing] using shown⟩
  | case2 located first others _ found fault statementRead =>
      rw [readStatements_eq, found] at read
      simp only [statementRead] at read
      cases read
  | case3 located first others _ found statement statementRead =>
      rw [readStatements_eq, found] at read
      simp only [statementRead] at read
      cases read
      obtain ⟨leading, shown⟩ := skipSemicolons_sound located
      obtain ⟨tree, rfl, statementShown⟩ := readStatement_sound statementRead
      refine .inr ⟨⟨leading, tree, [], 0⟩, rfl, ?_⟩
      rw [shown, found, statementShown]
      simp [QueryTree.tokens, QueryTree.furtherTokens, semicolons]
  | case4 located first others _ found statement position rest statementRead ih =>
      rw [readStatements_eq, found] at read
      simp only [statementRead] at read
      obtain ⟨following, followingRead, rfl⟩ := map_eq_ok_iff.mp read
      obtain ⟨leading, shown⟩ := skipSemicolons_sound located
      obtain ⟨tree, rfl, statementShown⟩ := readStatement_sound statementRead
      rw [found, statementShown, bare_cons] at shown
      rcases ih followingRead with ⟨rfl, count, restShown⟩ | ⟨later, meaning, restShown⟩
      · refine .inr ⟨⟨leading, tree, [], count + 1⟩, rfl, ?_⟩
        rw [shown, restShown]
        simp [QueryTree.tokens, QueryTree.furtherTokens, semicolons, List.replicate_succ]
      · cases meaning
        refine .inr ⟨⟨leading, tree, (later.leading, later.first) :: later.others,
          later.trailing⟩, rfl, ?_⟩
        rw [shown, restShown]
        simp [QueryTree.tokens, QueryTree.furtherTokens, semicolons, List.replicate_succ]
  | case5 located first others _ found statement rest nonempty notSemicolon statementRead =>
      rw [readStatements_eq, found] at read
      simp only [statementRead] at read
      cases read

section Complete

variable (finish)

theorem skipMark_complete {mark : Mark} {following : List Token} (expected : Expectation)
    (shown : bare located = .mark mark :: following) :
    ∃ rest, skipMark mark expected finish located = .ok rest ∧ bare rest = following := by
  obtain ⟨position, rest, rfl, restShown⟩ := bare_eq_cons_iff.mp shown
  exact ⟨rest, by simp [skipMark], restShown⟩

/-- A word that is a whole argument must not be followed by an equals sign, with
which it would be the name of one. -/
theorem readArgument_complete (tree : ArgumentTree) {following : List Token}
    (shown : bare located = tree.tokens ++ following)
    (apart : following.head? ≠ some (.mark .equals)) :
    ∃ rest, readArgument finish located = .ok (tree.argument, rest) ∧ bare rest = following := by
  cases tree with
  | named name value =>
      obtain ⟨_, _, rfl, afterName⟩ := bare_eq_cons_iff.mp shown
      obtain ⟨_, _, rfl, afterEquals⟩ := bare_eq_cons_iff.mp afterName
      obtain ⟨_, rest, rfl, restShown⟩ := bare_eq_cons_iff.mp afterEquals
      cases value with
      | word text => exact ⟨rest, rfl, restShown⟩
      | quoted text => exact ⟨rest, rfl, restShown⟩
  | positional value =>
      obtain ⟨_, rest, rfl, restShown⟩ := bare_eq_cons_iff.mp shown
      refine ⟨rest, ?_, restShown⟩
      cases value with
      | quoted text => rfl
      | word text =>
          cases rest with
          | nil => rfl
          | cons head tail =>
              obtain ⟨token, position⟩ := head
              have different : token ≠ .mark .equals := by
                rintro rfl
                exact apart (congrArg List.head? restShown).symm
              simp [readArgument, ValueTree.token, ArgumentTree.argument, ValueTree.text,
                different]

theorem readArguments_complete {trees : List ArgumentTree} {following : List Token}
    (nonempty : trees ≠ [])
    (shown : bare located =
      StatementTree.argumentTokens trees ++ .mark .closeParen :: following) :
    ∃ rest, readArguments finish located = .ok (trees.map ArgumentTree.argument, rest) ∧
      bare rest = .mark .closeParen :: following := by
  induction trees generalizing located with
  | nil => contradiction
  | cons tree others ih =>
      unfold readArguments
      by_cases last : others = []
      · subst others
        obtain ⟨rest, read, restShown⟩ := readArgument_complete finish tree
          (by simpa [StatementTree.argumentTokens] using shown) (by simp)
        obtain ⟨position, more, rfl, -⟩ := bare_eq_cons_iff.mp restShown
        refine ⟨_, ?_, restShown⟩
        split <;> simp_all
      · rw [argumentTokens_cons last, List.append_assoc, List.cons_append] at shown
        obtain ⟨rest, read, restShown⟩ := readArgument_complete finish tree
          shown (by simp)
        obtain ⟨position, more, rfl, moreShown⟩ := bare_eq_cons_iff.mp restShown
        obtain ⟨remaining, othersRead, remainingShown⟩ := ih last moreShown
        refine ⟨remaining, ?_, remainingShown⟩
        split <;> simp_all [Except.map]

theorem readArgumentList_complete {trees : List ArgumentTree} {following : List Token}
    (shown : bare located =
      StatementTree.argumentTokens trees ++ .mark .closeParen :: following) :
    ∃ rest, readArgumentList finish located = .ok (trees.map ArgumentTree.argument, rest) ∧
      bare rest = following := by
  cases trees with
  | nil =>
      obtain ⟨position, rest, rfl, restShown⟩ := bare_eq_cons_iff.mp shown
      exact ⟨rest, rfl, restShown⟩
  | cons tree others =>
      obtain ⟨afterArguments, argumentsRead, closing⟩ :=
        readArguments_complete finish (List.cons_ne_nil tree others) shown
      obtain ⟨rest, closed, restShown⟩ :=
        skipMark_complete finish .closeParen closing
      refine ⟨rest, ?_, restShown⟩
      obtain ⟨value, more, tokens⟩ := argumentTokens_head tree others
      rw [tokens] at shown
      unfold readArgumentList
      split
      · simp only [bare_cons, List.cons_append, List.cons.injEq] at shown
        exact absurd shown.1.symm (value.token_ne_mark .closeParen)
      · exact bind_eq_ok_iff.mpr ⟨_, argumentsRead, bind_eq_ok_iff.mpr ⟨_, closed, rfl⟩⟩

theorem readFields_complete {names : List NameTree} {following : List Token}
    (shown : bare located = names.map NameTree.token ++ .mark .closeBrace :: following) :
    ∃ rest, readFields located = .ok (names.flatMap NameTree.fields, rest) ∧
      bare rest = .mark .closeBrace :: following := by
  induction names generalizing located with
  | nil =>
      obtain ⟨position, rest, rfl, -⟩ := bare_eq_cons_iff.mp shown
      exact ⟨_, rfl, shown⟩
  | cons name others ih =>
      obtain ⟨position, tail, rfl, tailShown⟩ := bare_eq_cons_iff.mp shown
      obtain ⟨rest, othersRead, restShown⟩ := ih tailShown
      have known := Field.ofNameOrPreset?_eq_some_iff.mpr ⟨name, rfl, rfl⟩
      refine ⟨rest, ?_, restShown⟩
      simp [NameTree.token, readFields, known, othersRead, Except.map]

theorem readBlock_complete (tree : ProjectionTree) {following : List Token}
    (shown : bare located = tree.tokens ++ following) :
    ∃ rest, readProjection finish located = .ok (some tree.names, rest) ∧
      bare rest = following := by
  have opened : bare located = .mark .openBrace ::
      (tree.nameTrees.map NameTree.token ++ .mark .closeBrace :: following) := by
    simpa [ProjectionTree.tokens] using shown
  obtain ⟨position, tail, rfl, tailShown⟩ := bare_eq_cons_iff.mp opened
  obtain ⟨afterFields, fieldsRead, closing⟩ := readFields_complete tailShown
  obtain ⟨rest, closed, restShown⟩ := skipMark_complete finish .closeBrace closing
  refine ⟨rest, ?_, restShown⟩
  have nonempty : (tree.nameTrees.flatMap NameTree.fields).isEmpty = false := by
    simp [ProjectionTree.nameTrees, NameTree.fields_ne_nil]
  rw [ProjectionTree.names_eq]
  refine bind_eq_ok_iff.mpr ⟨_, fieldsRead, bind_eq_ok_iff.mpr ⟨_, closed, ?_⟩⟩
  simp only [nonempty]
  rfl

theorem readProjection_complete (tree : Option ProjectionTree) {following : List Token}
    (shown : bare located = StatementTree.projectionTokens tree ++ following)
    (apart : following.head? ≠ some (.mark .openBrace)) :
    ∃ rest, readProjection finish located = .ok (tree.map ProjectionTree.names, rest) ∧
      bare rest = following := by
  cases tree with
  | none =>
      refine ⟨located, ?_, shown⟩
      unfold readProjection
      split
      · exact absurd (congrArg List.head? shown).symm apart
      · rfl
  | some tree => exact readBlock_complete finish tree shown

/-- A statement without braces must not be followed by an opening brace, with
which its projection would begin. -/
theorem readStatement_complete (tree : StatementTree) {following : List Token}
    (shown : bare located = tree.tokens ++ following)
    (apart : following.head? ≠ some (.mark .openBrace)) :
    ∃ rest, readStatement finish located = .ok (tree.statement, rest) ∧
      bare rest = following := by
  have named : bare located = .word tree.operation.name :: .mark .openParen ::
      (StatementTree.argumentTokens tree.arguments ++ .mark .closeParen ::
        (StatementTree.projectionTokens tree.projection ++ following)) := by
    simpa [StatementTree.tokens] using shown
  obtain ⟨position, tail, rfl, tailShown⟩ := bare_eq_cons_iff.mp named
  obtain ⟨afterOpen, opened, openShown⟩ :=
    skipMark_complete finish .openParen tailShown
  obtain ⟨afterArguments, listed, listShown⟩ :=
    readArgumentList_complete finish openShown
  obtain ⟨rest, projected, restShown⟩ :=
    readProjection_complete finish tree.projection listShown apart
  refine ⟨rest, ?_, restShown⟩
  have known : (Operation.ofName? tree.operation.name).isNone = false := by
    rw [tree.operation.ofName?_name]
    rfl
  simp only [readStatement, known]
  exact bind_eq_ok_iff.mpr ⟨_, opened, bind_eq_ok_iff.mpr ⟨_, listed,
    bind_eq_ok_iff.mpr ⟨_, projected, rfl⟩⟩⟩

theorem skipSemicolons_complete {count : Nat} {following : List Token}
    (shown : bare located = semicolons count ++ following)
    (apart : following.head? ≠ some (.mark .semicolon)) :
    bare (skipSemicolons located) = following := by
  induction count generalizing located with
  | zero =>
      unfold skipSemicolons
      split
      · exact absurd (congrArg List.head? shown).symm apart
      · exact shown
  | succ count ih =>
      obtain ⟨position, rest, rfl, restShown⟩ := bare_eq_cons_iff.mp shown
      rw [skipSemicolons]
      exact ih restShown

theorem readStatements_semicolons {count : Nat} (shown : bare located = semicolons count) :
    readStatements finish located = .ok [] := by
  have alone : bare located = semicolons count ++ [] := by rw [shown, List.append_nil]
  have skipped := skipSemicolons_complete alone (by simp)
  rw [readStatements_eq, bare_eq_nil_iff.mp skipped]

/-- What the reader of statements does behind the first of them. -/
theorem readStatements_first {first : StatementTree} {leading : Nat}
    {following : List Token}
    (shown : bare located = semicolons leading ++ (first.tokens ++ following))
    (apart : following.head? ≠ some (.mark .openBrace)) :
    ∃ rest, bare rest = following ∧
      readStatements finish located =
        match rest with
        | [] => .ok [first.statement]
        | ⟨.mark .semicolon, _⟩ :: more =>
            (readStatements finish more).map (first.statement :: ·)
        | rest => .error (unmet .separator finish rest) := by
  have skipped := skipSemicolons_complete shown (by simp [StatementTree.tokens])
  obtain ⟨rest, read, restShown⟩ := readStatement_complete finish first skipped apart
  obtain ⟨position, others, found, -⟩ := bare_eq_cons_iff.mp skipped
  refine ⟨rest, restShown, ?_⟩
  rw [found] at read
  rw [readStatements_eq, found]
  simp only [read]
  split <;> simp_all

theorem readStatements_complete {first : StatementTree} {others : List (Nat × StatementTree)}
    {leading trailing : Nat}
    (shown : bare located =
      semicolons leading ++ (first.tokens ++ QueryTree.furtherTokens others trailing)) :
    readStatements finish located =
      .ok (first.statement :: others.map fun entry => entry.2.statement) := by
  induction others generalizing located leading first with
  | nil =>
      cases trailing with
      | zero =>
          have alone : bare located = semicolons leading ++ (first.tokens ++ []) := shown
          obtain ⟨rest, restShown, read⟩ := readStatements_first finish alone (by simp)
          cases bare_eq_nil_iff.mp restShown
          exact read
      | succ trailing =>
          obtain ⟨rest, restShown, read⟩ := readStatements_first finish shown (by
            simp [QueryTree.furtherTokens, semicolons, List.replicate_succ])
          obtain ⟨position, more, rfl, moreShown⟩ := bare_eq_cons_iff.mp restShown
          rw [read]
          exact map_eq_ok_iff.mpr ⟨_, readStatements_semicolons finish moreShown, rfl⟩
  | cons entry others ih =>
      obtain ⟨count, next⟩ := entry
      obtain ⟨rest, restShown, read⟩ := readStatements_first finish shown (by
        simp [QueryTree.furtherTokens, semicolons, List.replicate_succ])
      have separated : bare rest = .mark .semicolon :: (semicolons count ++
          (next.tokens ++ QueryTree.furtherTokens others trailing)) := by
        simpa [QueryTree.furtherTokens, semicolons, List.replicate_succ] using restShown
      obtain ⟨position, more, rfl, moreShown⟩ := bare_eq_cons_iff.mp separated
      rw [read]
      exact map_eq_ok_iff.mpr ⟨_, ih moreShown, rfl⟩

end Complete

theorem Query.ofTokens?_eq_ok_iff {query : Query} :
    Query.ofTokens? finish located = .ok query ↔
      ∃ tree : QueryTree, tree.tokens = bare located ∧ tree.query = query := by
  constructor
  · intro read
    obtain ⟨statements, statementsRead, read⟩ := bind_eq_ok_iff.mp read
    rcases readStatements_sound statementsRead with ⟨rfl, -⟩ | ⟨tree, meaning, shown⟩
    · cases read
    · split at read
      · cases read
      · cases read
        exact ⟨tree, shown.symm, meaning⟩
  · rintro ⟨tree, tokens, rfl⟩
    have shown : bare located = semicolons tree.leading ++
        (tree.first.tokens ++ QueryTree.furtherTokens tree.others tree.trailing) := by
      rw [← tokens, QueryTree.tokens, List.append_assoc]
    have read := readStatements_complete finish shown
    exact bind_eq_ok_iff.mpr ⟨_, read, rfl⟩

/-- A tree derives a text that consists of its tokens. -/
def QueryTree.Derives (tree : QueryTree) (text : String) : Prop :=
  ∃ tokenized, tokenize text = .ok tokenized ∧ tree.tokens = bare tokenized.tokens

theorem Query.parse_eq_ok_iff_derives {text : String} {query : Query} :
    Query.parse text = .ok query ↔ ∃ tree : QueryTree, tree.Derives text ∧ tree.query = query := by
  rw [Query.parse, bind_eq_ok_iff]
  constructor
  · rintro ⟨tokenized, split, read⟩
    obtain ⟨tree, tokens, meaning⟩ := Query.ofTokens?_eq_ok_iff.mp read
    exact ⟨tree, ⟨tokenized, split, tokens⟩, meaning⟩
  · rintro ⟨tree, ⟨tokenized, split, tokens⟩, meaning⟩
    exact ⟨tokenized, split, Query.ofTokens?_eq_ok_iff.mpr ⟨tree, tokens, meaning⟩⟩

/-- Queries are read from the derived texts and from no others, and the result is
what the derivation means, of which there is only one. -/
theorem Query.parse_accepts_grammar (text : String) :
    (∀ query, Query.parse text = .ok query ↔
      ∃ tree : QueryTree, tree.Derives text ∧ tree.query = query) ∧
    Function.Injective QueryTree.tokens ∧
    ((∃ fault : SyntaxError, Query.parse text = .error fault) ↔
      ¬ ∃ tree : QueryTree, tree.Derives text) := by
  refine ⟨fun query => parse_eq_ok_iff_derives, fun _ _ same => QueryTree.tokens_injective same,
    ?_⟩
  constructor
  · rintro ⟨fault, failed⟩ ⟨tree, derives⟩
    rw [parse_eq_ok_iff_derives.mpr ⟨tree, derives, rfl⟩] at failed
    cases failed
  · intro underivable
    cases parsed : Query.parse text with
    | error fault => exact ⟨fault, rfl⟩
    | ok query =>
        obtain ⟨tree, derives, -⟩ := parse_eq_ok_iff_derives.mp parsed
        exact absurd ⟨tree, derives⟩ underivable

end IssueQuery
