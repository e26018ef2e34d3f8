import IssueQuery.Proofs.Grammar

namespace IssueQuery

/-! The grammar of the query language is unambiguous: no tokens have two
derivations.

Each kind of tree is recognized in front of further tokens.  Where a longer tree
of the same kind could begin alike, the further tokens must not start with the
mark by which the longer one goes on.
-/

variable {following others : List Token}

theorem ValueTree.token_injective : Function.Injective ValueTree.token := by
  intro left right same
  cases left <;> cases right <;> simp_all [ValueTree.token]

@[simp] theorem ValueTree.token_ne_mark (value : ValueTree) (mark : Mark) :
    value.token ≠ .mark mark := by
  cases value <;> simp [ValueTree.token]

theorem ArgumentTree.eq_of_tokens_append {first second : ArgumentTree}
    (same : first.tokens ++ following = second.tokens ++ others)
    (apart : following.head? ≠ some (.mark .equals))
    (othersApart : others.head? ≠ some (.mark .equals)) :
    first = second ∧ following = others := by
  cases first with
  | named name value =>
      cases second with
      | named otherName otherValue =>
          simp only [tokens, List.cons_append, List.nil_append, List.cons.injEq, Token.word.injEq,
            true_and] at same
          obtain ⟨rfl, values, rfl⟩ := same
          exact ⟨by rw [ValueTree.token_injective values], rfl⟩
      | positional otherValue =>
          simp only [tokens, List.cons_append, List.nil_append, List.cons.injEq] at same
          exact absurd (by rw [← same.2]; rfl) othersApart
  | positional value =>
      cases second with
      | named otherName otherValue =>
          simp only [tokens, List.cons_append, List.nil_append, List.cons.injEq] at same
          exact absurd (by rw [same.2]; rfl) apart
      | positional otherValue =>
          simp only [tokens, List.cons_append, List.nil_append, List.cons.injEq] at same
          exact ⟨by rw [ValueTree.token_injective same.1], same.2⟩

theorem argumentTokens_cons {tree : ArgumentTree} {trees : List ArgumentTree}
    (more : trees ≠ []) :
    StatementTree.argumentTokens (tree :: trees) =
      tree.tokens ++ .mark .comma :: StatementTree.argumentTokens trees := by
  obtain ⟨next, others, rfl⟩ := List.exists_cons_of_ne_nil more
  simp [StatementTree.argumentTokens]

/-- Arguments start with a word or a quoted text, never with a mark. -/
theorem argumentTokens_head (tree : ArgumentTree) (trees : List ArgumentTree) :
    ∃ (value : ValueTree) (more : List Token),
      StatementTree.argumentTokens (tree :: trees) = value.token :: more := by
  have started : ∃ (value : ValueTree) (more : List Token), tree.tokens = value.token :: more := by
    cases tree with
    | named name value => exact ⟨.word name, _, rfl⟩
    | positional value => exact ⟨value, _, rfl⟩
  obtain ⟨value, more, tokens⟩ := started
  cases trees with
  | nil => exact ⟨value, more, by simp [StatementTree.argumentTokens, tokens]⟩
  | cons next others =>
      rw [argumentTokens_cons (List.cons_ne_nil next others), tokens]
      exact ⟨value, _, rfl⟩

/-- An argument and what stands behind it: the closing parenthesis, or a comma
and a further argument. -/
theorem argumentTokens_cons_append (tree : ArgumentTree) (trees : List ArgumentTree)
    (following : List Token) :
    ∃ mark more, StatementTree.argumentTokens (tree :: trees) ++ .mark .closeParen :: following =
        tree.tokens ++ .mark mark :: more ∧
      ((trees = [] ∧ mark = .closeParen ∧ more = following) ∨
        (trees ≠ [] ∧ mark = .comma ∧
          more = StatementTree.argumentTokens trees ++ .mark .closeParen :: following)) := by
  by_cases last : trees = []
  · subst trees
    exact ⟨.closeParen, following, by simp [StatementTree.argumentTokens], .inl ⟨rfl, rfl, rfl⟩⟩
  · exact ⟨.comma, _, by rw [argumentTokens_cons last, List.append_assoc, List.cons_append],
      .inr ⟨last, rfl, rfl⟩⟩

theorem eq_of_argumentTokens_append {first second : List ArgumentTree}
    (same : StatementTree.argumentTokens first ++ .mark .closeParen :: following =
      StatementTree.argumentTokens second ++ .mark .closeParen :: others) :
    first = second ∧ following = others := by
  induction first generalizing second with
  | nil =>
      cases second with
      | nil => simpa [StatementTree.argumentTokens] using same
      | cons tree trees =>
          obtain ⟨value, more, tokens⟩ := argumentTokens_head tree trees
          rw [tokens] at same
          exact absurd (List.cons.inj same).1.symm (value.token_ne_mark .closeParen)
  | cons tree trees ih =>
      cases second with
      | nil =>
          obtain ⟨value, more, tokens⟩ := argumentTokens_head tree trees
          rw [tokens] at same
          exact absurd (List.cons.inj same).1 (value.token_ne_mark .closeParen)
      | cons otherTree otherTrees =>
          obtain ⟨mark, more, shown, kind⟩ := argumentTokens_cons_append tree trees following
          obtain ⟨otherMark, otherMore, otherShown, otherKind⟩ :=
            argumentTokens_cons_append otherTree otherTrees others
          rw [shown, otherShown] at same
          obtain ⟨rfl, behind⟩ := ArgumentTree.eq_of_tokens_append same
            (by rcases kind with ⟨-, rfl, -⟩ | ⟨-, rfl, -⟩ <;> simp)
            (by rcases otherKind with ⟨-, rfl, -⟩ | ⟨-, rfl, -⟩ <;> simp)
          simp only [List.cons.injEq, Token.mark.injEq] at behind
          obtain ⟨rfl, rfl⟩ := behind
          rcases kind with ⟨rfl, rfl, rfl⟩ | ⟨-, rfl, rfl⟩
          · rcases otherKind with ⟨rfl, -, rfl⟩ | ⟨-, impossible, -⟩
            · exact ⟨rfl, rfl⟩
            · cases impossible
          · rcases otherKind with ⟨-, impossible, -⟩ | ⟨-, -, rest⟩
            · cases impossible
            · obtain ⟨rfl, rfl⟩ := ih rest
              exact ⟨rfl, rfl⟩

theorem NameTree.text_injective : Function.Injective NameTree.text := by
  intro left right same
  cases left with
  | ofPreset preset known =>
      have found := Preset.ofName?_name known
      cases right with
      | ofPreset other otherKnown =>
          have otherFound := Preset.ofName?_name otherKnown
          rw [show preset.name = other.name from same, otherFound] at found
          cases found
          rfl
      | ofField field =>
          rw [show preset.name = field.name from same, Preset.ofName?_fieldName] at found
          cases found
  | ofField field =>
      cases right with
      | ofPreset other otherKnown =>
          have found := Preset.ofName?_name otherKnown
          rw [show other.name = field.name from same.symm, Preset.ofName?_fieldName] at found
          cases found
      | ofField other => rw [Field.name_injective same]

theorem eq_of_nameTokens_append {first second : List NameTree}
    (same : first.map NameTree.token ++ .mark .closeBrace :: following =
      second.map NameTree.token ++ .mark .closeBrace :: others) :
    first = second ∧ following = others := by
  induction first generalizing second with
  | nil =>
      cases second with
      | nil => simpa using same
      | cons name names => simp [NameTree.token] at same
  | cons name names ih =>
      cases second with
      | nil => simp [NameTree.token] at same
      | cons otherName otherNames =>
          simp only [List.map_cons, List.cons_append, List.cons.injEq, NameTree.token,
            Token.word.injEq] at same
          obtain ⟨rfl, rfl⟩ := ih same.2
          exact ⟨by rw [NameTree.text_injective same.1], rfl⟩

theorem eq_of_projectionTokens_append {first second : Option ProjectionTree}
    (same : StatementTree.projectionTokens first ++ following =
      StatementTree.projectionTokens second ++ others)
    (apart : following.head? ≠ some (.mark .openBrace))
    (othersApart : others.head? ≠ some (.mark .openBrace)) :
    first = second ∧ following = others := by
  cases first with
  | none =>
      cases second with
      | none => exact ⟨rfl, same⟩
      | some second => exact absurd (congrArg List.head? same) apart
  | some first =>
      cases second with
      | none => exact absurd (congrArg List.head? same).symm othersApart
      | some second =>
          simp only [StatementTree.projectionTokens, Option.map_some, Option.getD_some,
            ProjectionTree.tokens, List.cons_append, List.append_assoc, List.nil_append,
            List.cons.injEq, true_and] at same
          obtain ⟨names, rfl⟩ := eq_of_nameTokens_append same
          obtain ⟨name, more⟩ := first
          cases names
          exact ⟨rfl, rfl⟩

theorem StatementTree.eq_of_tokens_append {first second : StatementTree}
    (same : first.tokens ++ following = second.tokens ++ others)
    (apart : following.head? ≠ some (.mark .openBrace))
    (othersApart : others.head? ≠ some (.mark .openBrace)) :
    first = second ∧ following = others := by
  obtain ⟨operation, arguments, projection⟩ := first
  obtain ⟨otherOperation, otherArguments, otherProjection⟩ := second
  simp only [tokens, List.cons_append, List.append_assoc, List.cons.injEq, Token.word.injEq,
    true_and] at same
  have operations : operation = otherOperation := by
    have found := operation.ofName?_name
    rw [same.1, otherOperation.ofName?_name] at found
    exact (Option.some.inj found).symm
  obtain ⟨rfl, behind⟩ := eq_of_argumentTokens_append same.2
  obtain ⟨rfl, rfl⟩ := eq_of_projectionTokens_append behind apart othersApart
  exact ⟨by rw [operations], rfl⟩

theorem eq_of_semicolons_append {first second : Nat}
    (same : semicolons first ++ following = semicolons second ++ others)
    (apart : following.head? ≠ some (.mark .semicolon))
    (othersApart : others.head? ≠ some (.mark .semicolon)) :
    first = second ∧ following = others := by
  induction first generalizing second with
  | zero =>
      cases second with
      | zero => exact ⟨rfl, same⟩
      | succ second => exact absurd (congrArg List.head? same) apart
  | succ first ih =>
      cases second with
      | zero => exact absurd (congrArg List.head? same).symm othersApart
      | succ second =>
          obtain ⟨rfl, rfl⟩ := ih (List.cons.inj same).2
          exact ⟨rfl, rfl⟩

theorem furtherTokens_head (others : List (Nat × StatementTree)) (trailing : Nat) :
    (QueryTree.furtherTokens others trailing).head? ≠ some (.mark .openBrace) := by
  cases others <;> cases trailing <;>
    simp [QueryTree.furtherTokens, semicolons, List.replicate_succ]

theorem furtherTokens_cons (entry : Nat × StatementTree) (others : List (Nat × StatementTree))
    (trailing : Nat) :
    QueryTree.furtherTokens (entry :: others) trailing =
      semicolons (entry.1 + 1) ++ (entry.2.tokens ++ QueryTree.furtherTokens others trailing) := by
  simp [QueryTree.furtherTokens]

theorem eq_of_furtherTokens {first second : List (Nat × StatementTree)}
    {trailing otherTrailing : Nat}
    (same : QueryTree.furtherTokens first trailing =
      QueryTree.furtherTokens second otherTrailing) :
    first = second ∧ trailing = otherTrailing := by
  have last (count : Nat) : QueryTree.furtherTokens [] count = semicolons count ++ [] := by
    simp [QueryTree.furtherTokens]
  induction first generalizing second with
  | nil =>
      cases second with
      | nil =>
          rw [last, last] at same
          exact ⟨rfl, (eq_of_semicolons_append same (by simp) (by simp)).1⟩
      | cons entry others =>
          rw [last, furtherTokens_cons] at same
          have behind := (eq_of_semicolons_append same (by simp) (by simp [StatementTree.tokens])).2
          simp [StatementTree.tokens] at behind
  | cons entry rest ih =>
      cases second with
      | nil =>
          rw [last, furtherTokens_cons] at same
          have behind := (eq_of_semicolons_append same (by simp [StatementTree.tokens]) (by simp)).2
          simp [StatementTree.tokens] at behind
      | cons other others =>
          rw [furtherTokens_cons, furtherTokens_cons] at same
          obtain ⟨counts, behind⟩ := eq_of_semicolons_append same
            (by simp [StatementTree.tokens]) (by simp [StatementTree.tokens])
          obtain ⟨statements, rests⟩ := StatementTree.eq_of_tokens_append behind
            (furtherTokens_head rest trailing) (furtherTokens_head others otherTrailing)
          obtain ⟨rfl, rfl⟩ := ih rests
          exact ⟨by rw [Prod.ext (Nat.succ.inj counts) statements], rfl⟩

theorem QueryTree.tokens_injective : Function.Injective QueryTree.tokens := by
  intro left right same
  obtain ⟨leading, first, others, trailing⟩ := left
  obtain ⟨otherLeading, otherFirst, otherOthers, otherTrailing⟩ := right
  simp only [tokens, List.append_assoc] at same
  obtain ⟨rfl, behind⟩ := eq_of_semicolons_append same
    (by simp [StatementTree.tokens]) (by simp [StatementTree.tokens])
  obtain ⟨rfl, rests⟩ := StatementTree.eq_of_tokens_append behind
    (furtherTokens_head others trailing) (furtherTokens_head otherOthers otherTrailing)
  obtain ⟨rfl, rfl⟩ := eq_of_furtherTokens rests
  rfl

end IssueQuery
