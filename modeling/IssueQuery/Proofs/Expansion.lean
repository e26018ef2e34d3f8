import IssueQuery.Proofs.Derivation
import IssueQuery.Proofs.Refusals

namespace IssueQuery

/-! Names that stand for fields.

Names are expanded twice: when a query is read, and when the fields of a
statement are chosen.  What the reader puts in the place of the names chooses
the same fields as the names themselves.
-/

/-- Either every name is known, or there is a first that is not. -/
theorem NameTree.known_or_unknown (names : List String) :
    (∃ trees : List NameTree, trees.map NameTree.text = names) ∨
      ∃ (trees : List NameTree) (name : String) (later : List String),
        names = trees.map NameTree.text ++ name :: later ∧
          Field.ofNameOrPreset? name = none := by
  induction names with
  | nil => exact .inl ⟨[], rfl⟩
  | cons name rest ih =>
      cases meant : Field.ofNameOrPreset? name with
      | none => exact .inr ⟨[], name, rest, rfl, meant⟩
      | some fields =>
          obtain ⟨tree, rfl, -⟩ := Field.ofNameOrPreset?_eq_some_iff.mp meant
          rcases ih with ⟨trees, rfl⟩ | ⟨trees, unknown, later, rfl, isUnknown⟩
          · exact .inl ⟨tree :: trees, rfl⟩
          · exact .inr ⟨tree :: trees, unknown, later, rfl, isUnknown⟩

theorem NameTree.map_token (trees : List NameTree) :
    trees.map NameTree.token = (trees.map NameTree.text).map Token.word := by
  rw [List.map_map]
  rfl

theorem NameTree.ofNameOrPreset?_text (tree : NameTree) :
    Field.ofNameOrPreset? tree.text = some tree.fields :=
  Field.ofNameOrPreset?_eq_some_iff.mpr ⟨tree, rfl, rfl⟩

namespace Field

theorem groups_known (trees : List NameTree) :
    trees.mapM (fun tree => (.ok tree.fields : Except String (List Field))) =
      .ok (trees.map NameTree.fields) :=
  List.mapM_pure

theorem expand_known (trees : List NameTree) :
    expand (trees.map NameTree.text) = .ok (distinct (trees.flatMap NameTree.fields)) := by
  simp only [expand, List.mapM_map, Function.comp_def, NameTree.ofNameOrPreset?_text,
    groups_known, List.flatMap_def]
  rfl

theorem expand_unknown (trees : List NameTree) {name : String}
    (unknown : ofNameOrPreset? name = none) (later : List String) :
    expand (trees.map NameTree.text ++ name :: later) = .error name := by
  simp only [expand, List.mapM_append, List.mapM_cons, List.mapM_map, Function.comp_def,
    NameTree.ofNameOrPreset?_text, groups_known, unknown]
  rfl

/-- Distinct fields are what their own names stand for. -/
theorem expand_names (fields : List Field) :
    expand ((distinct fields).map name) = .ok (distinct fields) := by
  have named : (distinct fields).map name =
      ((distinct fields).map NameTree.ofField).map NameTree.text := by simp [NameTree.text]
  have meant : ((distinct fields).map NameTree.ofField).flatMap NameTree.fields =
      distinct fields := by simp [List.flatMap_map, NameTree.fields]
  rw [named, expand_known, meant, distinct_eq_eraseDups fields, distinct_eq_eraseDups,
    eraseDups_of_nodup (nodup_eraseDups fields)]

end Field

theorem Preset.fields_of_selectsAll {preset : Preset} (known : preset ∈ Preset.all)
    (selectsAll : preset.selectsAll = true) : preset.fields = Field.all := by
  simp only [Preset.all, List.mem_cons, List.not_mem_nil, or_false] at known
  rcases known with rfl | rfl | rfl | rfl
  · cases selectsAll
  · cases selectsAll
  · cases selectsAll
  · rfl

theorem Field.mem_all (field : Field) : field ∈ Field.all := by
  cases field <;> decide

namespace Selection

/-- Whether a preset of all fields is among names. -/
def namesAll (names : List String) : Bool :=
  names.any fun name => ((Preset.ofName? name).map (·.selectsAll)).getD false

theorem namesAll_fieldNames (fields : List Field) : namesAll (fields.map Field.name) = false := by
  simp [namesAll, Preset.ofName?_fieldName]

/-- The fields that such names stand for are all there are. -/
theorem mem_fields_of_namesAll {trees : List NameTree}
    (named : namesAll (trees.map NameTree.text) = true) (field : Field) :
    field ∈ trees.flatMap NameTree.fields := by
  obtain ⟨name, member, selectsAll⟩ := List.any_eq_true.mp named
  obtain ⟨tree, treeMember, rfl⟩ := List.mem_map.mp member
  refine List.mem_flatMap.mpr ⟨tree, treeMember, ?_⟩
  cases tree with
  | ofPreset preset known =>
      rw [NameTree.text, Preset.ofName?_name known] at selectsAll
      rw [NameTree.fields, Preset.fields_of_selectsAll known selectsAll]
      exact field.mem_all
  | ofField other => simp [NameTree.text, Preset.ofName?_fieldName] at selectsAll

theorem ofNames_of_expand {names : List String} {fields : List Field} (nonempty : names ≠ [])
    (expanded : Field.expand names = .ok fields) :
    ofNames names = .ok ⟨fields, namesAll names || Field.all.all fields.contains⟩ := by
  rw [ofNames, if_neg (by simpa using nonempty), expanded]
  rfl

/-- Names and what they expand to make the same choice.  The preset of all fields
is gone from the expanded names, but then these cover every field. -/
theorem ofNames_expanded {trees : List NameTree} (nonempty : trees ≠ []) :
    ∃ selection : Selection,
      ofNames (trees.map NameTree.text) = .ok selection ∧
      ofNames ((Field.distinct (trees.flatMap NameTree.fields)).map Field.name) =
        .ok selection := by
  have someField : Field.distinct (trees.flatMap NameTree.fields) ≠ [] := by
    obtain ⟨tree, rest, rfl⟩ := List.exists_cons_of_ne_nil nonempty
    obtain ⟨field, others, fields⟩ := List.exists_cons_of_ne_nil tree.fields_ne_nil
    refine List.ne_nil_of_mem (Field.mem_distinct.mpr (?_ : field ∈ _))
    simp [fields]
  have sameFlag : (namesAll (trees.map NameTree.text) ||
      Field.all.all (Field.distinct (trees.flatMap NameTree.fields)).contains) =
        Field.all.all (Field.distinct (trees.flatMap NameTree.fields)).contains := by
    cases named : namesAll (trees.map NameTree.text) with
    | false => rfl
    | true =>
        have covered := mem_fields_of_namesAll named
        simp [covered]
  refine ⟨_, ofNames_of_expand (by simpa using nonempty) (Field.expand_known trees), ?_⟩
  rw [ofNames_of_expand (by simpa using someField) (Field.expand_names _), namesAll_fieldNames,
    Bool.false_or, sameFlag]

end Selection

/-- Names in braces. -/
def blockTokens (names : List String) : List Token :=
  .mark .openBrace :: names.map Token.word ++ [.mark .closeBrace]

section Blocks

variable (finish : Nat) {located : List Located} {following : List Token} {names : List String}

theorem readProjection_empty (shown : bare located = blockTokens [] ++ following) :
    ∃ position, readProjection finish located =
      .error ⟨.emptyProjection, position, Token.text (.mark .openBrace)⟩ := by
  obtain ⟨position, _, rfl, tailShown⟩ := bare_eq_cons_iff.mp shown
  obtain ⟨_, _, rfl, -⟩ := bare_eq_cons_iff.mp tailShown
  exact ⟨position, rfl⟩

theorem readFields_unknown {trees : List NameTree} {name : String}
    (unknown : Field.ofNameOrPreset? name = none)
    (shown : bare located = trees.map NameTree.token ++ .word name :: following) :
    ∃ position, located[trees.length]? = some ⟨.word name, position⟩ ∧
      readFields located = .error ⟨.unknownField name, position, name⟩ := by
  induction trees generalizing located with
  | nil =>
      obtain ⟨position, rest, rfl, -⟩ := bare_eq_cons_iff.mp shown
      exact ⟨position, rfl, by simp [readFields, unknown]⟩
  | cons tree trees ih =>
      obtain ⟨_, rest, rfl, restShown⟩ := bare_eq_cons_iff.mp shown
      obtain ⟨position, found, read⟩ := ih restShown
      refine ⟨position, found, ?_⟩
      simp [NameTree.token, readFields, tree.ofNameOrPreset?_text, read, Except.map]

theorem readProjection_unknown {trees : List NameTree} {name : String} {later : List String}
    (unknown : Field.ofNameOrPreset? name = none)
    (shown : bare located =
      blockTokens (trees.map NameTree.text ++ name :: later) ++ following) :
    ∃ position, located[trees.length + 1]? = some ⟨.word name, position⟩ ∧
      readProjection finish located = .error ⟨.unknownField name, position, name⟩ := by
  obtain ⟨_, rest, rfl, restShown⟩ := bare_eq_cons_iff.mp shown
  have namesShown : bare rest = trees.map NameTree.token ++
      .word name :: (later.map Token.word ++ .mark .closeBrace :: following) := by
    rw [restShown, NameTree.map_token]
    simp
  obtain ⟨position, found, read⟩ := readFields_unknown unknown namesShown
  refine ⟨position, found, ?_⟩
  rw [readProjection, read]
  rfl

theorem readProjection_known {trees : List NameTree} (nonempty : trees ≠ [])
    (shown : bare located = blockTokens (trees.map NameTree.text) ++ following) :
    ∃ rest, readProjection finish located =
        .ok (some ((Field.distinct (trees.flatMap NameTree.fields)).map Field.name), rest) ∧
      bare rest = following := by
  obtain ⟨first, others, rfl⟩ := List.exists_cons_of_ne_nil nonempty
  have blockShown : bare located = ProjectionTree.tokens ⟨first, others⟩ ++ following := by
    rw [shown, blockTokens, ← NameTree.map_token]
    rfl
  obtain ⟨rest, read, restShown⟩ := readBlock_complete finish ⟨first, others⟩ blockShown
  rw [ProjectionTree.names_eq] at read
  exact ⟨rest, read, restShown⟩

theorem readProjection_isOk_iff (shown : bare located = blockTokens names ++ following) :
    (∃ fields rest, readProjection finish located = .ok (fields, rest)) ↔
      names ≠ [] ∧ ∃ fields, Field.expand names = .ok fields := by
  rcases NameTree.known_or_unknown names with ⟨trees, rfl⟩ | ⟨trees, name, later, rfl, unknown⟩
  · by_cases empty : trees = []
    · subst empty
      obtain ⟨position, refused⟩ := readProjection_empty finish shown
      simp [refused]
    · obtain ⟨rest, read, -⟩ := readProjection_known finish empty shown
      simp [read, Field.expand_known, empty]
  · obtain ⟨position, -, refused⟩ := readProjection_unknown finish unknown shown
    simp [refused, Field.expand_unknown trees unknown]

/-- The name to blame is the first that is not known, and the fault is where it
stands. -/
theorem readProjection_of_expand_error {name : String}
    (shown : bare located = blockTokens names ++ following)
    (failed : Field.expand names = .error name) :
    ∃ earlier later position, names = earlier ++ name :: later ∧
      (∀ other ∈ earlier, Field.ofNameOrPreset? other ≠ none) ∧
      Field.ofNameOrPreset? name = none ∧
      located[earlier.length + 1]? = some ⟨.word name, position⟩ ∧
      readProjection finish located = .error ⟨.unknownField name, position, name⟩ := by
  rcases NameTree.known_or_unknown names with ⟨trees, rfl⟩ | ⟨trees, first, later, rfl, unknown⟩
  · rw [Field.expand_known] at failed
    cases failed
  · rw [Field.expand_unknown trees unknown] at failed
    cases failed
    obtain ⟨position, found, refused⟩ := readProjection_unknown finish unknown shown
    refine ⟨trees.map NameTree.text, later, position, rfl, ?_, unknown, ?_, refused⟩
    · intro other member
      obtain ⟨tree, -, rfl⟩ := List.mem_map.mp member
      simp [tree.ofNameOrPreset?_text]
    · rwa [List.length_map]

theorem readProjection_agrees {fields : Option (List String)} {rest : List Located}
    (shown : bare located = blockTokens names ++ following)
    (read : readProjection finish located = .ok (fields, rest)) :
    bare rest = following ∧
      ∃ chosen selection,
        fields = some (chosen.map Field.name) ∧
        Field.expand names = .ok chosen ∧
        Field.expand (chosen.map Field.name) = .ok chosen ∧
        Selection.ofNames names = .ok selection ∧
        Selection.ofNames (chosen.map Field.name) = .ok selection := by
  obtain ⟨nonempty, -⟩ := (readProjection_isOk_iff finish shown).mp ⟨fields, rest, read⟩
  rcases NameTree.known_or_unknown names with ⟨trees, rfl⟩ | ⟨trees, first, later, rfl, unknown⟩
  · have someTree : trees ≠ [] := by simpa using nonempty
    obtain ⟨remaining, readAgain, restShown⟩ := readProjection_known finish someTree shown
    obtain ⟨selection, chosen, chosenAgain⟩ := Selection.ofNames_expanded someTree
    rw [readAgain] at read
    cases read
    exact ⟨restShown, _, selection, rfl, Field.expand_known trees, Field.expand_names _, chosen,
      chosenAgain⟩
  · obtain ⟨position, -, refused⟩ := readProjection_unknown finish unknown shown
    rw [refused] at read
    cases read

end Blocks

section Read

variable {text : String} {query : Query} {statement : Statement}

theorem Statement.exists_tree_of_parse (parsed : Query.parse text = .ok query)
    (member : statement ∈ query.statements) :
    ∃ tree : StatementTree, tree.statement = statement := by
  obtain ⟨tree, -, rfl⟩ := Query.parse_eq_ok_iff_derives.mp parsed
  rcases List.mem_cons.mp member with rfl | later
  · exact ⟨tree.first, rfl⟩
  · obtain ⟨entry, -, rfl⟩ := List.mem_map.mp later
    exact ⟨entry.2, rfl⟩

theorem StatementTree.exists_selection (tree : StatementTree) :
    ∃ selection, Selection.ofNames (tree.statement.fields.getD []) = .ok selection := by
  cases projection : tree.projection with
  | none => exact ⟨_, by rw [statement, projection]; rfl⟩
  | some block =>
      obtain ⟨selection, -, chosen⟩ :=
        Selection.ofNames_expanded (List.cons_ne_nil block.first block.others)
      refine ⟨selection, ?_⟩
      rwa [statement, projection, Option.map_some, Option.getD_some, ProjectionTree.names_eq]

/-- A statement that was read calls a known operation. -/
theorem StatementTree.task_ne_internal (tree : StatementTree) (scope : Scope) (detail : String) :
    tree.statement.task scope ≠ .error (.internal detail) := by
  intro refused
  rcases Statement.error_of_task refused with ⟨unknown, -⟩ | ⟨argument, message, impossible⟩
  · simp [statement, Operation.ofName?_name] at unknown
  · cases impossible

end Read

/-- The reader accepts a block of names exactly if there is a name and all of them
stand for fields, and it blames the first that does not.  What it puts in the
place of the names expands to the same fields and makes the same choice.  So a
statement that was read always has a choice of fields, and it never ends in an
internal error. -/
theorem Query.expanded_as_chosen (names : List String) :
    (∀ finish located following, bare located = blockTokens names ++ following →
      ((∃ fields rest, readProjection finish located = .ok (fields, rest)) ↔
        names ≠ [] ∧ ∃ fields, Field.expand names = .ok fields) ∧
      (∀ name, Field.expand names = .error name →
        ∃ earlier later position, names = earlier ++ name :: later ∧
          (∀ other ∈ earlier, Field.ofNameOrPreset? other ≠ none) ∧
          Field.ofNameOrPreset? name = none ∧
          located[earlier.length + 1]? = some ⟨.word name, position⟩ ∧
          readProjection finish located = .error ⟨.unknownField name, position, name⟩) ∧
      ∀ fields rest, readProjection finish located = .ok (fields, rest) →
        bare rest = following ∧
        ∃ chosen selection,
          fields = some (chosen.map Field.name) ∧
          Field.expand names = .ok chosen ∧
          Field.expand (chosen.map Field.name) = .ok chosen ∧
          Selection.ofNames names = .ok selection ∧
          Selection.ofNames (chosen.map Field.name) = .ok selection) ∧
    ∀ text query, Query.parse text = .ok query → ∀ statement ∈ query.statements,
      (∃ selection, Selection.ofNames (statement.fields.getD []) = .ok selection) ∧
      ∀ service scope detail,
        (statement.attempt service scope).1 ≠ .error (.internal detail) := by
  constructor
  · intro finish located following shown
    exact ⟨readProjection_isOk_iff finish shown,
      fun name failed => readProjection_of_expand_error finish shown failed,
      fun fields rest read => readProjection_agrees finish shown read⟩
  · intro text query parsed statement member
    obtain ⟨tree, rfl⟩ := Statement.exists_tree_of_parse parsed member
    refine ⟨tree.exists_selection, fun service scope detail failed => ?_⟩
    have refusal : (QueryError.internal detail).IsRefusal := trivial
    exact tree.task_ne_internal scope detail
      ((Statement.attempt_eq_refusal_iff service refusal).mp failed)

/-- Names in braces, with their numbers for positions. -/
def numberedBlock (names : List String) : List Located :=
  (blockTokens names).zipIdx.map fun entry => ⟨entry.1, entry.2⟩

/-- A preset of all fields keeps its meaning, an unknown name is found, and a
statement with a preset can be carried out. -/
theorem Query.full_expanded_as_chosen :
    (∃ selection : Selection,
      Selection.ofNames ["key", "full"] = .ok selection ∧ selection.selectsAll = true ∧
        Selection.ofNames (Field.all.map Field.name) = .ok selection) ∧
    (∃ position, readProjection 5 (numberedBlock ["key", "oops", "full"]) =
      .error ⟨.unknownField "oops", position, "oops"⟩) ∧
    ∀ service scope detail,
      ((Statement.mk "get" [⟨none, "A-1"⟩] (some ["key", "status"])).attempt service scope).1 ≠
        .error (.internal detail) := by
  refine ⟨?_, ?_, ?_⟩
  · have read : readProjection 4 (numberedBlock ["key", "full"]) =
        .ok (some (Field.all.map Field.name), []) := by decide +kernel
    obtain ⟨-, chosen, selection, same, -, -, byNames, byFields⟩ :=
      ((expanded_as_chosen ["key", "full"]).1 4 _ [] (by decide)).2.2 _ _ read
    rw [← Option.some.inj same] at byFields
    refine ⟨selection, byNames, ?_, byFields⟩
    cases byNames
    rfl
  · obtain ⟨earlier, later, position, -, -, -, -, refused⟩ :=
      ((expanded_as_chosen ["key", "oops", "full"]).1 5 (numberedBlock ["key", "oops", "full"]) []
        (by decide)).2.1 "oops" (by decide)
    exact ⟨position, refused⟩
  · have parsed : Query.parse "get(A-1){minimal}" =
        .ok ⟨[⟨"get", [⟨none, "A-1"⟩], some ["key", "status"]⟩]⟩ := by decide +kernel
    exact ((expanded_as_chosen []).2 _ _ parsed _ List.mem_cons_self).2

end IssueQuery
