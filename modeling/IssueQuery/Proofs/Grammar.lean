import IssueQuery.Proofs.Repetition
import IssueQuery.Query.Reader

namespace IssueQuery

/-! The grammar of the query language.

    query      := ";"* statement (";"+ statement)* ";"*
    statement  := OPERATION "(" [argument ("," argument)*] ")" ["{" NAME+ "}"]
    argument   := WORD "=" value | value
    value      := WORD | QUOTED

An operation is a word that calls a known operation, a name a word that means a
preset or a field.  Derivations are trees with a constructor for each
alternative: `tokens` is what a tree derives, and the other function of each
kind of tree is what the derived text means.
-/

inductive ValueTree where
  | word (text : String)
  | quoted (text : String)
deriving DecidableEq, Repr

namespace ValueTree

def token : ValueTree → Token
  | .word text => .word text
  | .quoted text => .quoted text

def text : ValueTree → String
  | .word text => text
  | .quoted text => text

end ValueTree

inductive ArgumentTree where
  | named (name : String) (value : ValueTree)
  | positional (value : ValueTree)
deriving DecidableEq, Repr

namespace ArgumentTree

def tokens : ArgumentTree → List Token
  | .named name value => [.word name, .mark .equals, value.token]
  | .positional value => [value.token]

def argument : ArgumentTree → Argument
  | .named name value => ⟨some name, value.text⟩
  | .positional value => ⟨none, value.text⟩

end ArgumentTree

/-- A name in braces. -/
inductive NameTree where
  | ofPreset (preset : Preset) (known : preset ∈ Preset.all)
  | ofField (field : Field)
deriving DecidableEq, Repr

namespace NameTree

def text : NameTree → String
  | .ofPreset preset _ => preset.name
  | .ofField field => field.name

def token (tree : NameTree) : Token := .word tree.text

/-- The fields that a name stands for: the members of a preset, or the field
itself. -/
def fields : NameTree → List Field
  | .ofPreset preset _ => preset.fields
  | .ofField field => [field]

end NameTree

structure ProjectionTree where
  first : NameTree
  others : List NameTree
deriving DecidableEq, Repr

namespace ProjectionTree

def nameTrees (tree : ProjectionTree) : List NameTree := tree.first :: tree.others

def tokens (tree : ProjectionTree) : List Token :=
  .mark .openBrace :: tree.nameTrees.map NameTree.token ++ [.mark .closeBrace]

/-- The names with every preset replaced by its members, without those that
occurred before. -/
def names (tree : ProjectionTree) : List String :=
  (tree.nameTrees.flatMap fun name => name.fields.map Field.name).eraseDups

end ProjectionTree

structure StatementTree where
  operation : Operation
  arguments : List ArgumentTree
  projection : Option ProjectionTree
deriving DecidableEq, Repr

namespace StatementTree

def argumentTokens (trees : List ArgumentTree) : List Token :=
  [Token.mark .comma].intercalate (trees.map ArgumentTree.tokens)

def projectionTokens (tree : Option ProjectionTree) : List Token :=
  (tree.map ProjectionTree.tokens).getD []

def tokens (tree : StatementTree) : List Token :=
  .word tree.operation.name :: .mark .openParen ::
    (argumentTokens tree.arguments ++ .mark .closeParen :: projectionTokens tree.projection)

def statement (tree : StatementTree) : Statement where
  operation := tree.operation.name
  arguments := tree.arguments.map ArgumentTree.argument
  fields := tree.projection.map ProjectionTree.names

end StatementTree

def semicolons (count : Nat) : List Token := List.replicate count (.mark .semicolon)

structure QueryTree where
  /-- The number of semicolons in front. -/
  leading : Nat
  first : StatementTree
  /-- The further statements, each with the number of semicolons in front of it
  beyond the one that must be there. -/
  others : List (Nat × StatementTree)
  /-- The number of semicolons behind. -/
  trailing : Nat
deriving DecidableEq, Repr

namespace QueryTree

/-- The tokens behind a statement of a query. -/
def furtherTokens (others : List (Nat × StatementTree)) (trailing : Nat) : List Token :=
  (others.flatMap fun entry => semicolons (entry.1 + 1) ++ entry.2.tokens) ++ semicolons trailing

def tokens (tree : QueryTree) : List Token :=
  semicolons tree.leading ++ tree.first.tokens ++ furtherTokens tree.others tree.trailing

def query (tree : QueryTree) : Query :=
  ⟨tree.first.statement :: tree.others.map fun entry => entry.2.statement⟩

end QueryTree

/-- The tokens of a list without their positions. -/
def bare (located : List Located) : List Token := located.map Located.token

@[simp] theorem bare_nil : bare [] = [] := rfl

@[simp] theorem bare_cons (head : Located) (rest : List Located) :
    bare (head :: rest) = head.token :: bare rest := rfl

theorem bare_eq_nil_iff {located : List Located} : bare located = [] ↔ located = [] := by
  simp [bare]

theorem bare_eq_cons_iff {located : List Located} {token : Token} {following : List Token} :
    bare located = token :: following ↔
      ∃ position rest, located = ⟨token, position⟩ :: rest ∧ bare rest = following := by
  constructor
  · intro shown
    obtain ⟨head, rest, rfl, rfl, rfl⟩ := List.map_eq_cons_iff.mp shown
    exact ⟨head.position, rest, rfl, rfl⟩
  · rintro ⟨position, rest, rfl, rfl⟩
    rfl

theorem Preset.ofName?_name {preset : Preset} (known : preset ∈ Preset.all) :
    Preset.ofName? preset.name = some preset := by
  simp only [Preset.all, List.mem_cons, List.not_mem_nil, or_false] at known
  rcases known with rfl | rfl | rfl | rfl <;> decide

theorem Preset.mem_all_of_ofName? {name : String} {preset : Preset}
    (found : Preset.ofName? name = some preset) : preset ∈ Preset.all ∧ preset.name = name :=
  ⟨List.mem_of_find?_eq_some found, by simpa using List.find?_some found⟩

theorem Field.ofName?_name (field : Field) : Field.ofName? field.name = some field := by
  cases field <;> decide

theorem Field.name_of_ofName? {name : String} {field : Field}
    (found : Field.ofName? name = some field) : field.name = name := by
  simpa using List.find?_some found

theorem Field.name_injective : Function.Injective Field.name := by
  intro left right same
  have found := left.ofName?_name
  rw [same, right.ofName?_name] at found
  exact (Option.some.inj found).symm

/-- No name means both a preset and a field. -/
theorem Preset.ofName?_fieldName (field : Field) : Preset.ofName? field.name = none := by
  cases field <;> decide

theorem Operation.ofName?_name (operation : Operation) :
    Operation.ofName? operation.name = some operation := by
  cases operation <;> decide

theorem Field.ofNameOrPreset?_eq_some_iff {name : String} {fields : List Field} :
    Field.ofNameOrPreset? name = some fields ↔
      ∃ tree : NameTree, tree.text = name ∧ tree.fields = fields := by
  unfold Field.ofNameOrPreset?
  constructor
  · intro chosen
    cases found : Preset.ofName? name with
    | some preset =>
        obtain ⟨known, named⟩ := Preset.mem_all_of_ofName? found
        exact ⟨.ofPreset preset known, named, by simpa [found, NameTree.fields] using chosen⟩
    | none =>
        simp only [found, Option.map_eq_some_iff] at chosen
        obtain ⟨field, fieldFound, rfl⟩ := chosen
        exact ⟨.ofField field, Field.name_of_ofName? fieldFound, rfl⟩
  · rintro ⟨tree, rfl, rfl⟩
    cases tree with
    | ofPreset preset known => simp [NameTree.text, Preset.ofName?_name known, NameTree.fields]
    | ofField field =>
        simp [NameTree.text, Preset.ofName?_fieldName, Field.ofName?_name, NameTree.fields]

/-- Presets are not empty, so that a name always stands for some field. -/
theorem NameTree.fields_ne_nil (tree : NameTree) : tree.fields ≠ [] := by
  cases tree with
  | ofPreset preset known =>
      have nonempty : ∀ preset ∈ Preset.all, preset.fields ≠ [] := by decide
      exact nonempty preset known
  | ofField field => simp [NameTree.fields]

end IssueQuery
