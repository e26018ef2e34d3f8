import IssueQuery.Proofs.Prediction

namespace IssueQuery

/-! Where the reader of queries stops.

Every reader sees one token of what it has not taken, and when it fails, what it has taken
can be completed to a query.
-/

variable {finish : Nat} {located rest : List Located}

/-- A token that can stand wherever a value can. -/
def anyValue : Token := .quoted ""

theorem writable_anyValue : anyValue.Writable := by simp [anyValue, Token.Writable]

def ArgumentTree.language : Language Token := Set.range ArgumentTree.tokens

theorem readArgument_word (value : String) (position : Nat)
    (apart : ¬ Leads .equals rest) :
    readArgument finish (⟨.word value, position⟩ :: rest) = .ok (⟨none, value⟩, rest) := by
  unfold readArgument
  split <;> simp_all [Leads]

theorem predicts_readArgument (finish : Nat) (located : List Located) :
    Predicts finish (readArgument finish) ArgumentTree.language located := by
  have completable : Completable ArgumentTree.language [] :=
    ⟨[anyValue], by simp [writable_anyValue], .positional (.quoted ""), rfl⟩
  match located with
  | [] | ⟨.mark sign, position⟩ :: rest =>
      refine .unexpected .argument completable ?_
      rintro (_ | _) ⟨⟩
      rfl
  | ⟨.quoted value, position⟩ :: rest =>
      exact .cons (.done (Argument.mk none value) ⟨.positional (.quoted value), rfl⟩)
  | ⟨.word name, position⟩ :: rest =>
      refine .cons ?_
      by_cases named : Leads .equals rest
      · obtain ⟨middle, more, rfl⟩ := named
        refine .cons ?_
        have expectsValue : Completable
            ((ArgumentTree.language.leftQuotient [.word name]).leftQuotient [.mark .equals]) [] :=
          ⟨[anyValue], by simp [writable_anyValue], .named name (.quoted ""), rfl⟩
        match more with
        | [] | ⟨.mark sign, last⟩ :: rest =>
            refine .unexpected .value expectsValue ?_
            rintro (_ | _) ⟨⟩
            rfl
        | ⟨.word value, last⟩ :: rest =>
            exact .cons (.done (Argument.mk (some name) value) ⟨.named name (.word value), rfl⟩)
        | ⟨.quoted value, last⟩ :: rest =>
            exact .cons (.done (Argument.mk (some name) value) ⟨.named name (.quoted value), rfl⟩)
      · exact .congr (fun other alike => readArgument_word name position
            fun leads => named (leads.of_alike alike))
          (.done (Argument.mk none name) ⟨.positional (.word name), rfl⟩)

def StatementTree.argumentsLanguage : Language Token :=
  {tokens | ∃ trees, trees ≠ [] ∧ tokens = argumentTokens trees}

/-- What is read behind an argument. -/
def afterArgument (finish : Nat) (argument : Argument) : Reader (List Argument)
  | ⟨.mark .comma, _⟩ :: rest =>
      (readArguments finish rest).map fun (arguments, remaining) =>
        (argument :: arguments, remaining)
  | rest => .ok ([argument], rest)

theorem afterArgument_of_not_leads {argument : Argument} (apart : ¬ Leads .comma rest) :
    afterArgument finish argument rest = .ok ([argument], rest) := by
  unfold afterArgument
  split
  · exact absurd ⟨_, _, rfl⟩ apart
  · rfl

theorem readArguments_eq (finish : Nat) (located : List Located) :
    readArguments finish located =
      readArgument finish located >>= fun (argument, rest) =>
        afterArgument finish argument rest := by
  rw [readArguments]
  split
  · rename_i failed
    rw [failed]
    rfl
  · rename_i read
    rw [read]
    rfl
  · rename_i rest notComma read
    rw [read]
    simp only [Bind.bind, Except.bind, afterArgument]

theorem predicts_readArguments (finish : Nat) (located : List Located) :
    Predicts finish (readArguments finish) StatementTree.argumentsLanguage located := by
  have single (tree : ArgumentTree) : tree.tokens ∈ StatementTree.argumentsLanguage :=
    ⟨[tree], by simp, by simp [StatementTree.argumentTokens]⟩
  refine .congr (fun other _ => readArguments_eq finish other)
    (.bind (afterArgument finish) (predicts_readArgument finish located) ?_ ?_)
  · rintro _ ⟨tree, rfl⟩
    exact .of_mem (single tree)
  · rintro argument front rest read - ⟨tree, shown⟩
    by_cases separated : Leads .comma rest
    · obtain ⟨position, more, rfl⟩ := separated
      refine .cons (.map (argument :: ·) (.mono ?_ (predicts_readArguments finish more)))
      rintro _ ⟨trees, nonempty, rfl⟩
      refine ⟨tree :: trees, by simp, ?_⟩
      rw [argumentTokens_cons nonempty, shown]
      simp
    · exact .congr (fun other alike => afterArgument_of_not_leads
          fun leads => separated (leads.of_alike alike))
        (.done [argument] (by simpa [← shown] using single tree))
termination_by located.length
decreasing_by
  have := length_lt_of_readArgument read
  simp only [List.length_cons] at this
  omega

/-- Arguments up to the parenthesis behind them. -/
def StatementTree.listLanguage : Language Token :=
  Set.range fun trees => argumentTokens trees ++ [.mark .closeParen]

/-- What is read behind a value that a mark closes. -/
def closedBy {α : Type} (mark : Mark) (expected : Expectation) (finish : Nat) (value : α) :
    Reader α := fun located =>
  skipMark mark expected finish located >>= fun rest => .ok (value, rest)

theorem readArgumentList_eq (apart : ¬ Leads .closeParen located) :
    readArgumentList finish located =
      readArguments finish located >>= fun (arguments, rest) =>
        closedBy .closeParen .closeParen finish arguments rest := by
  unfold readArgumentList
  split
  · exact absurd ⟨_, _, rfl⟩ apart
  · rfl

theorem predicts_readArgumentList (finish : Nat) (located : List Located) :
    Predicts finish (readArgumentList finish) StatementTree.listLanguage located := by
  have whole (trees : List ArgumentTree) : StatementTree.argumentTokens trees ++
      [.mark .closeParen] ∈ StatementTree.listLanguage := ⟨trees, rfl⟩
  have writable : ∀ token ∈ [Token.mark .closeParen], token.Writable := by
    simp [Token.Writable]
  by_cases empty : Leads .closeParen located
  · obtain ⟨position, rest, rfl⟩ := empty
    exact .cons (.done ([] : List Argument) (whole []))
  · refine .congr (fun other alike => readArgumentList_eq fun leads =>
        empty (leads.of_alike alike))
      (.bind (closedBy _ _ finish) (predicts_readArguments finish located) ?_ ?_)
    · rintro _ ⟨trees, -, rfl⟩
      exact ⟨_, writable, whole trees⟩
    · rintro arguments front rest - - ⟨trees, -, shown⟩
      rw [shown]
      exact .mark ⟨_, writable, whole trees⟩ fun rest => .done arguments (whole trees)

def NameTree.language : Language Token :=
  Set.range fun names : List NameTree => names.map NameTree.token

theorem predicts_readFields (finish : Nat) (located : List Located) :
    Predicts finish readFields NameTree.language located := by
  match located with
  | [] | ⟨.mark _, _⟩ :: _ | ⟨.quoted _, _⟩ :: _ =>
      refine .congr ?_ (.done ([] : List Field) ⟨[], rfl⟩)
      rintro (_ | _) ⟨⟩
      rfl
  | ⟨.word name, position⟩ :: rest =>
      cases known : Field.ofNameOrPreset? name with
      | none =>
          refine .refused ⟨.unknownField name, position, name⟩ [] rfl (.word (by simp))
            (.of_mem ⟨[], rfl⟩) ?_
          rintro (_ | _) ⟨⟩
          simp only [List.nil_append, readFields, known]
      | some fields =>
          obtain ⟨tree, rfl, -⟩ := Field.ofNameOrPreset?_eq_some_iff.mp known
          refine .cons (.congr (fun other alike => ?_)
            (.map (fields ++ ·) (.mono ?_ (predicts_readFields finish rest))))
          · simp only [readFields, known]
          · rintro _ ⟨names, rfl⟩
            exact ⟨tree :: names, rfl⟩

def ProjectionTree.language : Language Token := Set.range StatementTree.projectionTokens

/-- Behind the first name a projection has some field. -/
theorem readProjection_named {name : String} {fields : List Field}
    (known : Field.ofNameOrPreset? name = some fields) (position opening : Nat) :
    readProjection finish (⟨.mark .openBrace, opening⟩ :: ⟨.word name, position⟩ :: located) =
      readFields located >>= fun (more, rest) =>
        closedBy .closeBrace .closeBrace finish
          (some ((Field.distinct (fields ++ more)).map Field.name)) rest := by
  obtain ⟨tree, -, rfl⟩ := Field.ofNameOrPreset?_eq_some_iff.mp known
  simp only [readProjection, readFields, known]
  cases readFields located with
  | error fault => rfl
  | ok result =>
      have nonempty : (tree.fields ++ result.1).isEmpty = false := by
        simp [tree.fields_ne_nil]
      simp only [Except.map, Bind.bind, Except.bind, closedBy, nonempty]
      rfl

theorem completable_projection :
    Completable (ProjectionTree.language.leftQuotient [.mark .openBrace]) [] := by
  refine ⟨[.word Field.key.name, .mark .closeBrace], ?_, some ⟨.ofField .key, []⟩, rfl⟩
  simp [Token.Writable, IsWord, Field.name, isWordChar]

/-- Behind an opening brace and in front of a word. -/
theorem predicts_readProjection_word (finish opening : Nat) (name : String) (position : Nat)
    (rest : List Located) :
    Predicts finish (fun tokens => readProjection finish (⟨.mark .openBrace, opening⟩ :: tokens))
      (ProjectionTree.language.leftQuotient [.mark .openBrace])
      (⟨.word name, position⟩ :: rest) := by
  cases known : Field.ofNameOrPreset? name with
  | none =>
      refine .refused ⟨.unknownField name, position, name⟩ [] rfl (.word (by simp))
        completable_projection ?_
      rintro (_ | _) ⟨⟩
      simp only [List.nil_append, readProjection, readFields, known]
      rfl
  | some fields =>
      obtain ⟨tree, rfl, -⟩ := Field.ofNameOrPreset?_eq_some_iff.mp known
      have whole (names : List NameTree) : names.map NameTree.token ++ [.mark .closeBrace] ∈
          (ProjectionTree.language.leftQuotient [.mark .openBrace]).leftQuotient [tree.token] :=
        ⟨some ⟨tree, names⟩, by simp [StatementTree.projectionTokens, ProjectionTree.tokens,
          ProjectionTree.nameTrees]⟩
      have writable : ∀ token ∈ [Token.mark .closeBrace], token.Writable := by
        simp [Token.Writable]
      refine .cons (.congr (fun other _ => readProjection_named known position opening)
        (.bind (fun more => closedBy _ _ finish
          (some ((Field.distinct (fields ++ more)).map Field.name)))
          (predicts_readFields finish rest) ?_ ?_))
      · rintro _ ⟨names, rfl⟩
        exact ⟨_, writable, whole names⟩
      · rintro more front rest - - ⟨names, shown⟩
        rw [← shown]
        exact .mark ⟨_, writable, whole names⟩ fun rest => .done _ (whole names)

theorem readProjection_of_not_leads (apart : ¬ Leads .openBrace located) :
    readProjection finish located = .ok (none, located) := by
  unfold readProjection
  split
  · exact absurd ⟨_, _, rfl⟩ apart
  · rfl

theorem predicts_readProjection (finish : Nat) (located : List Located) :
    Predicts finish (readProjection finish) ProjectionTree.language located := by
  by_cases opened : Leads .openBrace located
  · obtain ⟨opening, tokens, rfl⟩ := opened
    match tokens with
    | ⟨.word name, position⟩ :: rest =>
        exact .cons (predicts_readProjection_word finish opening name position rest)
    | [] | ⟨.quoted _, _⟩ :: _ =>
        refine .cons (.unexpected .closeBrace completable_projection ?_)
        rintro (_ | _) ⟨⟩
        rfl
    | ⟨.mark sign, position⟩ :: rest =>
        by_cases empty : sign = .closeBrace
        · -- The brace that opened is blamed once the closing one is seen.
          subst sign
          refine .refused ⟨.emptyProjection, opening, _⟩ [⟨.mark .openBrace, opening⟩] rfl
            (@Blames.braces _ _ _ [] _) completable_projection ?_
          rintro (_ | _) ⟨⟩
          rfl
        · refine .cons (.unexpected .closeBrace completable_projection ?_)
          rintro (_ | _) ⟨⟩
          simp only [readProjection, readFields, skipMark, Bind.bind, Except.bind, if_neg empty]
  · exact .congr (fun other alike => readProjection_of_not_leads
        fun leads => opened (leads.of_alike alike))
      (.done none ⟨none, rfl⟩)

def StatementTree.language : Language Token := Set.range StatementTree.tokens

/-- What is read behind the arguments of a statement. -/
def afterArguments (finish : Nat) (name : String) (arguments : List Argument) :
    Reader Statement := fun located =>
  (readProjection finish located).map fun (fields, rest) => (⟨name, arguments, fields⟩, rest)

/-- What is read behind the parenthesis of a statement. -/
def afterOpening (finish : Nat) (name : String) : Reader Statement := fun located =>
  readArgumentList finish located >>= fun (arguments, rest) =>
    afterArguments finish name arguments rest

theorem readStatement_named {operation : Operation} {position : Nat} :
    readStatement finish (⟨.word operation.name, position⟩ :: located) =
      skipMark .openParen .openParen finish located >>= afterOpening finish operation.name := by
  simp only [readStatement, operation.ofName?_name]
  cases skipMark .openParen .openParen finish located with
  | error fault => rfl
  | ok rest =>
      simp only [Bind.bind, Except.bind, afterOpening]
      cases readArgumentList finish rest with
      | error fault => rfl
      | ok listed =>
          simp only [afterArguments]
          cases readProjection finish listed.2 <;> rfl

theorem completable_statement : Completable StatementTree.language [] := by
  refine ⟨[.word Operation.get.name, .mark .openParen, .mark .closeParen], ?_,
    ⟨.get, [], none⟩, rfl⟩
  simp [Token.Writable, IsWord, Operation.name, isWordChar]

theorem predicts_readStatement (finish : Nat) (located : List Located) :
    Predicts finish (readStatement finish) StatementTree.language located := by
  match located with
  | [] | ⟨.mark _, _⟩ :: _ | ⟨.quoted _, _⟩ :: _ =>
      refine .unexpected .operationName completable_statement ?_
      rintro (_ | _) ⟨⟩
      rfl
  | ⟨.word name, position⟩ :: rest =>
      cases known : Operation.ofName? name with
      | none =>
          refine .refused ⟨.unknownOperation name, position, name⟩ [] rfl (.word (by simp))
            completable_statement ?_
          rintro (_ | _) ⟨⟩
          simp only [List.nil_append, readStatement, known]
          rfl
      | some operation =>
          obtain rfl := Operation.name_of_ofName? known
          have whole (trees : List ArgumentTree) (projection : Option ProjectionTree) :
              StatementTree.argumentTokens trees ++ [.mark .closeParen] ++
                  StatementTree.projectionTokens projection ∈
                (StatementTree.language.leftQuotient [.word operation.name]).leftQuotient
                  [.mark .openParen] :=
            ⟨⟨operation, trees, projection⟩, by simp [StatementTree.tokens]⟩
          refine .cons (.congr (fun other _ => readStatement_named) (.mark ?_ fun rest =>
            .bind (afterArguments finish operation.name) (predicts_readArgumentList finish rest)
              ?_ ?_))
          · exact ⟨[.mark .openParen, .mark .closeParen], by simp [Token.Writable], whole [] none⟩
          · rintro _ ⟨trees, rfl⟩
            exact .of_mem (by simpa [StatementTree.projectionTokens] using whole trees none)
          · rintro arguments front rest - - ⟨trees, shown⟩
            rw [← shown]
            refine .map _ (.mono ?_ (predicts_readProjection finish rest))
            rintro _ ⟨projection, rfl⟩
            exact whole trees projection

namespace QueryTree

def language : Language Token := Set.range tokens

/-- The tokens of any number of statements. -/
def statementsLanguage : Language Token :=
  {tokens | (∃ count, tokens = semicolons count) ∨ tokens ∈ language}

theorem single_mem (tree : StatementTree) : tree.tokens ∈ statementsLanguage :=
  .inr ⟨⟨0, tree, [], 0⟩, by simp [tokens, furtherTokens, semicolons]⟩

theorem semicolon_mem {word : List Token} (member : word ∈ statementsLanguage) :
    .mark .semicolon :: word ∈ statementsLanguage := by
  rcases member with ⟨count, rfl⟩ | ⟨tree, rfl⟩
  · exact .inl ⟨count + 1, rfl⟩
  · exact .inr ⟨⟨tree.leading + 1, tree.first, tree.others, tree.trailing⟩, rfl⟩

theorem separated_mem (first : StatementTree) {word : List Token}
    (member : word ∈ statementsLanguage) :
    first.tokens ++ .mark .semicolon :: word ∈ statementsLanguage := by
  rcases member with ⟨count, rfl⟩ | ⟨tree, rfl⟩
  · refine .inr ⟨⟨0, first, [], count + 1⟩, ?_⟩
    simp [tokens, furtherTokens, semicolons, List.replicate_succ]
  · refine .inr ⟨⟨0, first, (tree.leading, tree.first) :: tree.others, tree.trailing⟩, ?_⟩
    simp [tokens, furtherTokens, semicolons, List.replicate_succ]

/-- Where there may be a statement one can be put. -/
theorem completable_of_statements {word : List Token}
    (completable : Completable statementsLanguage word) : Completable language word := by
  obtain ⟨further, writable, ⟨count, only⟩ | member⟩ := completable
  · obtain ⟨single, singleWritable, ⟨first, shown⟩⟩ := completable_statement
    refine .of_append writable ⟨single, singleWritable, ⟨count, first, [], 0⟩, ?_⟩
    rw [only, ← List.nil_append single, ← shown]
    simp [tokens, furtherTokens, semicolons]
  · exact ⟨further, writable, member⟩

end QueryTree

/-- The reader of statements leaves nothing. -/
def readAll (finish : Nat) : Reader (List Statement) := fun located =>
  (readStatements finish located).map (·, [])

/-- What is read behind a statement. -/
def afterStatement (finish : Nat) (statement : Statement) : Reader (List Statement)
  | [] => .ok ([statement], [])
  | ⟨.mark .semicolon, _⟩ :: rest =>
      (readAll finish rest).map fun (statements, remaining) => (statement :: statements, remaining)
  | rest => .error (unmet .separator finish rest)

theorem readAll_semicolon (position : Nat) :
    readAll finish (⟨.mark .semicolon, position⟩ :: rest) = readAll finish rest := by
  rw [readAll, readAll, readStatements_eq, readStatements_eq, skipSemicolons]

theorem afterStatement_of_not_leads {head : Located} {statement : Statement}
    (apart : ¬ Leads .semicolon (head :: rest)) :
    afterStatement finish statement (head :: rest) =
      .error (unmet .separator finish (head :: rest)) := by
  unfold afterStatement
  split
  · contradiction
  · exact absurd ⟨_, _, ‹_›⟩ apart
  · rfl

/-- In front of a statement. -/
theorem readAll_eq {head : Located} (apart : head.token ≠ .mark .semicolon) :
    readAll finish (head :: rest) =
      readStatement finish (head :: rest) >>= fun (statement, rest) =>
        afterStatement finish statement rest := by
  have skipped : skipSemicolons (head :: rest) = head :: rest := by
    unfold skipSemicolons
    split <;> simp_all
  rw [readAll, readStatements_eq, skipped]
  simp only
  split
  · rename_i failed
    rw [failed]
    rfl
  · rename_i read
    rw [read]
    rfl
  · rename_i statement position more read
    rw [read]
    simp only [Bind.bind, Except.bind, afterStatement, readAll]
    cases readStatements finish more <;> rfl
  · rename_i statement more nonempty notSemicolon read
    obtain ⟨first, others, rfl⟩ := List.exists_cons_of_ne_nil nonempty
    rw [read]
    simp only [Bind.bind, Except.bind]
    rw [afterStatement_of_not_leads fun ⟨_, _, separated⟩ => notSemicolon _ _ separated]
    rfl

theorem predicts_afterStatement (tree : StatementTree) (statement : Statement)
    (rest : List Located)
    (following : ∀ position more, rest = ⟨.mark .semicolon, position⟩ :: more →
      Predicts finish (readAll finish) QueryTree.statementsLanguage more) :
    Predicts finish (afterStatement finish statement)
      (QueryTree.statementsLanguage.leftQuotient tree.tokens) rest := by
  have single : [] ∈ QueryTree.statementsLanguage.leftQuotient tree.tokens := by
    simpa using QueryTree.single_mem tree
  cases rest with
  | nil =>
      refine .congr ?_ (.done [statement] single)
      rintro (_ | _) ⟨⟩
      rfl
  | cons head more =>
      by_cases separated : Leads .semicolon (head :: more)
      · obtain ⟨position, more, split⟩ := separated
        cases split
        refine .cons (.map (statement :: ·) (.mono (fun word member => ?_)
          (following position more rfl)))
        simpa using QueryTree.separated_mem tree member
      · refine .unexpected .separator (.of_mem single) ?_
        rintro (_ | _) ⟨⟩
        exact afterStatement_of_not_leads fun leads => separated (leads.of_alike rfl)

theorem predicts_readAll (finish : Nat) (located : List Located) :
    Predicts finish (readAll finish) QueryTree.statementsLanguage located := by
  match located with
  | [] =>
      refine .congr ?_ (.done ([] : List Statement) (.inl ⟨0, rfl⟩))
      rintro (_ | _) ⟨⟩
      simp only [readAll, readStatements_eq, skipSemicolons]
      rfl
  | head :: rest =>
      by_cases separator : head.token = .mark .semicolon
      · obtain ⟨token, position⟩ := head
        cases separator
        exact .cons (.congr (fun other _ => readAll_semicolon position)
          (.mono (fun _ => QueryTree.semicolon_mem) (predicts_readAll finish rest)))
      · refine .congr (fun other alike => ?_)
          (.bind (afterStatement finish) (predicts_readStatement finish (head :: rest)) ?_ ?_)
        · obtain ⟨tail, rfl⟩ := List.head?_eq_some_iff.mp alike
          exact readAll_eq separator
        · rintro _ ⟨tree, rfl⟩
          exact .of_mem (QueryTree.single_mem tree)
        · rintro statement front rest read - ⟨tree, shown⟩
          rw [← shown]
          exact predicts_afterStatement tree statement rest fun position more split =>
            predicts_readAll finish more
termination_by located.length
decreasing_by
  · simp
  · have := length_lt_of_readStatement read
    rw [split] at this
    simp only [List.length_cons] at *
    omega

/-- Either the reader of statements fails, or it finds no statement. -/
theorem Query.ofTokens?_eq_error_iff {fault : SyntaxError} :
    Query.ofTokens? finish located = .error fault ↔
      readAll finish located = .error fault ∨
        readAll finish located = .ok ([], []) ∧ fault = ⟨.emptyQuery, finish, ""⟩ := by
  unfold Query.ofTokens? readAll
  cases readStatements finish located with
  | error cause => simp [Bind.bind, Except.bind, Except.map]
  | ok statements =>
      cases statements with
      | nil =>
          simp [Bind.bind, Except.bind, Except.map, throw, throwThe, MonadExceptOf.throw, eq_comm]
      | cons statement others => simp [Bind.bind, Except.bind, Except.map, Pure.pure, Except.pure]

/-- Tokens that are no query are the start of one up to the place of their fault, and
nothing that goes on with the same token is one. -/
theorem Query.ofTokens?_stops {fault : SyntaxError}
    (failed : Query.ofTokens? finish located = .error fault) :
    ∃ earlier later, located = earlier ++ later ∧ Blames finish fault earlier later ∧
      Completable QueryTree.language (bare earlier) ∧
      ∀ other : List Located, other.head? = later.head? →
        Query.ofTokens? finish (earlier ++ other) = .error fault := by
  have predicts := predicts_readAll finish located
  rcases ofTokens?_eq_error_iff.mp failed with stopped | ⟨read, rfl⟩
  · obtain ⟨earlier, later, split, blames, completable, again⟩ := predicts.stops stopped
    exact ⟨earlier, later, split, blames, QueryTree.completable_of_statements completable,
      fun other alike => ofTokens?_eq_error_iff.mpr (.inl (again other alike))⟩
  · obtain ⟨front, split, member, -⟩ := predicts.takes read
    rw [List.append_nil] at split
    subst front
    refine ⟨located, [], (List.append_nil _).symm, .finish (by simp),
      QueryTree.completable_of_statements (.of_mem member), fun other alike => ?_⟩
    rw [List.head?_eq_none_iff.mp alike, List.append_nil, failed]

end IssueQuery
