import IssueQuery.Proofs.Recoding
import IssueQuery.Proofs.Tallies
import IssueQuery.Proofs.Walks

namespace IssueQuery

/-! Descriptions of issues.

A document comes as a JSON value from which much can be missing and in which more can be
present.  Every such value is taken for the document, and none is shown as JSON.
-/

open Json Json.Source

namespace RichText

/-- Whether a member, if there is one, gives the type of a node. -/
def GivesType (member : Option Json) (type : String) : Prop :=
  member = some (.string type) ∨ member = none ∧ type = ""

/-- Whether a member, if there is one, gives the text of a node.  No text may be null. -/
def GivesText (member : Option Json) (text : Option String) : Prop :=
  member = text.map .string ∨ (member = none ∨ member = some .null) ∧ text.getD "" = ""

/-- Whether a member, if there is one, gives the content of a node. -/
def GivesContent (member : Option Json) (items : List Json) : Prop :=
  member = some (.array items) ∨ member = none ∧ items = []

section Members

variable {member : Option Json} {type : String} {text : Option String} {items : List Json}

theorem GivesType.sorted (given : GivesType member type) :
    GivesType (member.map Json.sorted) type := by
  rcases given with rfl | ⟨rfl, empty⟩
  · exact .inl rfl
  · exact .inr ⟨rfl, empty⟩

theorem GivesText.sorted (given : GivesText member text) :
    GivesText (member.map Json.sorted) text := by
  rcases given with rfl | ⟨rfl | rfl, empty⟩
  · refine .inl ?_
    cases text <;> rfl
  · exact .inr ⟨.inl rfl, empty⟩
  · exact .inr ⟨.inr rfl, empty⟩

theorem GivesContent.sorted (given : GivesContent member items) :
    GivesContent (member.map Json.sorted) (sortedItems items) := by
  rcases given with rfl | ⟨rfl, rfl⟩
  · exact .inl rfl
  · exact .inr ⟨rfl, rfl⟩

variable {fields : List (String × Source)}

theorem GivesType.read (given : GivesType member type)
    (found : fields.lookup "type" = member.map toSource) :
    fieldD? fields "type" Source.string? "" = some type := by
  rw [fieldD?, found]
  rcases given with rfl | ⟨rfl, rfl⟩
  · rfl
  · rfl

theorem GivesText.read (given : GivesText member text)
    (found : fields.lookup "text" = member.map toSource) :
    ∃ shown, fieldD? fields "text" (optional? Source.string?) none = some shown ∧
      shown.getD "" = text.getD "" := by
  rw [fieldD?, found]
  rcases given with rfl | ⟨rfl | rfl, empty⟩
  · refine ⟨text, ?_, rfl⟩
    cases text <;> rfl
  · exact ⟨none, rfl, empty.symm⟩
  · exact ⟨none, rfl, empty.symm⟩

theorem GivesContent.read {α : Type} {decode : Source → Option α} {values : List α}
    (given : GivesContent member items) (found : fields.lookup "content" = member.map toSource)
    (decoded : (itemsToSource items).mapM decode = some values) :
    fieldD? fields "content" (list? decode) [] = some values := by
  rw [fieldD?, found]
  rcases given with rfl | ⟨rfl, rfl⟩
  · exact decoded
  · exact decoded

end Members

end RichText

/-- Whether a JSON value represents a document: its members stand in any order, what is empty
may be missing, and there may be others. -/
inductive Json.Represents : Json → RichText → Prop
  | object {members : List (String × Json)} {items : List Json} {type : String}
      {text : Option String} {content : List RichText}
      (distinct : (members.map (·.1)).Nodup)
      (typed : RichText.GivesType (members.lookup "type") type)
      (worded : RichText.GivesText (members.lookup "text") text)
      (filled : RichText.GivesContent (members.lookup "content") items)
      (counted : items.length = content.length)
      (each : ∀ pair ∈ items.zip content, Represents pair.1 pair.2) :
      Represents (.object members) ⟨type, text, content⟩

namespace Json

/-- Putting members into order changes nothing of what a value represents. -/
theorem Represents.sorted {value : Json} {node : RichText} (represents : value.Represents node) :
    value.sorted.Represents node := by
  induction represents with
  | @object members items type text content distinct typed worded filled counted each ih =>
      have found := lookup_sorted distinct
      have sortedCounted : (sortedItems items).length = content.length := by
        rw [sortedItems_eq_map, List.length_map, counted]
      rw [Json.sorted]
      refine .object (ascending_sortMembers _).nodup (found "type" ▸ typed.sorted)
        (found "text" ▸ worded.sorted) (found "content" ▸ filled.sorted) sortedCounted ?_
      intro pair listed
      rw [sortedItems_eq_map, List.zip_map_left] at listed
      obtain ⟨given, within, rfl⟩ := List.mem_map.mp listed
      exact ih given within

end Json

namespace RichText

mutual

/-- Every document is represented by some value. -/
theorem represents_toJson : (node : RichText) → node.toJson.Represents node
  | ⟨type, text, content⟩ => by
      have worded : GivesText (some (ofOption .string text)) text := by
        cases text with
        | none => exact .inr ⟨.inr rfl, rfl⟩
        | some _ => exact .inl rfl
      have counted : (contentToJson content).length = content.length := by
        rw [contentToJson_eq_map, List.length_map]
      rw [toJson]
      exact .object (by simp) (.inl rfl) worded (.inl rfl) counted
        (represents_contentToJson content)

theorem represents_contentToJson : (content : List RichText) →
    ∀ pair ∈ (contentToJson content).zip content, pair.1.Represents pair.2
  | [] => by simp [contentToJson]
  | node :: rest => by
      rw [contentToJson, List.zip_cons_cons, List.forall_mem_cons]
      exact ⟨represents_toJson node, represents_contentToJson rest⟩

end

end RichText

namespace Json

theorem Source.exists_fields?_toSource {members : List (String × Json)}
    (distinct : (members.map (·.1)).Nodup) (names : List String) :
    ∃ fields, (Json.object members).toSource.fields? names = some fields ∧
      ∀ name ∈ names, fields.lookup name = (members.lookup name).map toSource := by
  refine ⟨_, knownMembers?_membersToSource distinct names, fun name known => ?_⟩
  have kept : ∀ value, names.contains (name, (value : Json)).1 = true :=
    fun _ => List.contains_iff_mem.mpr known
  rw [lookup_map, lookup_filter kept]

theorem exists_mapM_decodeWithin? {fuel : Nat} {items : List Json} {content : List RichText}
    (counted : items.length = content.length)
    (each : ∀ pair ∈ items.zip content, ∃ found,
      RichText.decodeWithin? fuel pair.1.toSource = some found ∧
        found.plainChars = pair.2.plainChars) :
    ∃ found, (itemsToSource items).mapM (RichText.decodeWithin? fuel) = some found ∧
      RichText.contentChars found = RichText.contentChars content := by
  induction items generalizing content with
  | nil =>
      obtain rfl := List.length_eq_zero_iff.mp counted.symm
      exact ⟨[], rfl, rfl⟩
  | cons item rest ih =>
      cases content with
      | nil => cases counted
      | cons node others =>
          rw [List.zip_cons_cons, List.forall_mem_cons] at each
          obtain ⟨first, decoded, sameText⟩ := each.1
          obtain ⟨following, decodedRest, sameRest⟩ := ih (Nat.succ.inj counted) each.2
          refine ⟨first :: following, ?_, ?_⟩
          · rw [itemsToSource, List.mapM_cons, decoded, decodedRest]
            rfl
          · rw [RichText.contentChars, RichText.contentChars, sameText, sameRest]

theorem Represents.exists_decodeWithin? {value : Json} {node : RichText}
    (represents : value.Represents node) {fuel : Nat} (enough : value.depth < fuel) :
    ∃ found, RichText.decodeWithin? fuel value.toSource = some found ∧
      found.plainChars = node.plainChars := by
  -- The fuel only has to last for the content, which is nested less deeply than the node.
  induction represents generalizing fuel with
  | @object members items type text content distinct typed worded filled counted each ih =>
      cases fuel with
      | zero => cases enough
      | succ fuel =>
          obtain ⟨fields, present, found⟩ :=
            Source.exists_fields?_toSource distinct RichText.fieldNames
          have decodedItems : ∃ nodes,
              (itemsToSource items).mapM (RichText.decodeWithin? fuel) = some nodes ∧
                RichText.contentChars nodes = RichText.contentChars content := by
            refine exists_mapM_decodeWithin? counted fun pair listed => ih pair listed ?_
            rcases filled with given | ⟨-, rfl⟩
            · have inItems := depth_lt_array (List.of_mem_zip listed).1
              have inObject := depth_lt_object "content"
                ((mem_iff_lookup distinct).mpr given)
              omega
            · cases listed
          obtain ⟨nodes, decoded, sameContent⟩ := decodedItems
          obtain ⟨shown, read, sameText⟩ := worded.read (found "text" (by decide))
          refine ⟨⟨type, shown, nodes⟩, ?_, ?_⟩
          · rw [RichText.decodeWithin?, present]
            simp [typed.read (found "type" (by decide)), read,
              filled.read (found "content" (by decide)) decoded]
          · rw [RichText.plainChars, RichText.plainChars, sameText, sameContent]

end Json

/-- A value that represents a document is shown as the text of the document. -/
theorem Issue.descriptionText_of_represents {issue : Issue} {value : Json} {node : RichText}
    (represents : value.Represents node) (described : issue.details.description = some value) :
    issue.descriptionText = some node.plainText := by
  have enough : value.depth < value.toSource.depth + 1 := by
    rw [depth_toSource]
    exact Nat.lt_succ_self _
  obtain ⟨found, decoded, sameText⟩ := represents.exists_decodeWithin? enough
  cases represents with
  | object =>
      rw [descriptionText, described]
      simp only [RichText.ofSource?, decoded, RichText.plainText, sameText]

/-- The values of fields that an issue has, by the names of the fields. -/
def Field.entries (issue : Issue) (fields : List Field) : List (String × Value) :=
  fields.filterMap fun field => (field.value? issue).map fun value => (field.name, value)

theorem Field.lookup_entries (issue : Issue) (fields : List Field) (field : Field) :
    (entries issue fields).lookup field.name =
      if field ∈ fields then field.value? issue else none := by
  rw [entries]
  induction fields with
  | nil => rfl
  | cons head rest ih =>
      by_cases isHead : head = field
      · subst head
        cases shown : field.value? issue with
        | none => simp [shown, ih]
        | some value => simp [shown]
      · have otherName : field.name ≠ head.name := fun same => isHead (name_injective same).symm
        cases shown : head.value? issue with
        | none => simp [shown, ih, Ne.symm isHead]
        | some value => simp [shown, ih, Ne.symm isHead, lookup_cons_if, otherName]

theorem Field.names_entries (issue : Issue) (fields : List Field) :
    (entries issue fields).map (·.1) =
      (fields.filter fun field => (field.value? issue).isSome).map name := by
  rw [entries]
  induction fields with
  | nil => rfl
  | cons head rest ih => cases shown : head.value? issue <;> simp [shown, ih]

theorem Selection.entries_project (selection : Selection) (issue : Issue) :
    (selection.project issue).entries = Field.entries issue selection.fields := by
  have distinct : Field.all.Nodup := by decide
  refine Record.entries_ofList ?_
  have names := ((distinct.filter selection.includes).filter fun field =>
    (field.value? issue).isSome).map Field.name_injective
  rwa [← Field.names_entries] at names

/-- A projection shows each selected field by its name. -/
theorem Selection.get?_project (selection : Selection) (issue : Issue) {field : Field}
    (included : selection.includes field = true) :
    (selection.project issue).get? field.name = field.value? issue := by
  have selected : field ∈ selection.fields := by
    refine List.mem_filter.mpr ⟨?_, included⟩
    cases field <;> decide
  rw [Record.get?, selection.entries_project, Field.lookup_entries, if_pos selected]

/-- Whether a text is the description of an issue wherever it is shown. -/
structure Issue.ShowsDescription (issue : Issue) (text : String) : Prop where
  described : issue.descriptionText = some text
  value : Field.description.value? issue = some (.text text)
  projected : ∀ selection : Selection, selection.includes .description = true →
    (selection.project issue).get? Field.description.name = some (.text text)

theorem Issue.showsDescription_of_represents {issue : Issue} {value : Json} {node : RichText}
    (represents : value.Represents node) (described : issue.details.description = some value) :
    issue.ShowsDescription node.plainText := by
  have text := descriptionText_of_represents represents described
  have shown : Field.description.value? issue = some (.text node.plainText) := by
    rw [Field.value?, text]
    rfl
  refine ⟨text, shown, fun selection included => ?_⟩
  rw [selection.get?_project issue included, shown]

theorem IssueDetails.description_of_ofSource? {Related : Type}
    {related? : Source → Option Related} {source : Source} {details : IssueDetails Related}
    (decoded : IssueDetails.ofSource? related? source = some details)
    {fields : List (String × Source)} (given : source.fields? fieldNames = some fields)
    {value : Json} {node : RichText} (represents : value.Represents node)
    (described : fields.lookup "description" = some value.toSource) :
    details.description = some value.sorted := by
  obtain ⟨others, found, description, -, -⟩ := of_ofSource? decoded
  obtain rfl : fields = others := Option.some.inj (given.symm.trans found)
  cases represents with
  | @object members =>
      have read : (Json.object members).toSource.toJson? = some (Json.object members).sorted :=
        toJson?_toSource _
      rw [fieldD?, described] at description
      simp only [toSource, optional?] at description read
      rw [read] at description
      exact (Option.some.inj description).symm

/-- The plain text of a document is what the one walk through it that is depth first comes past,
which enters and leaves each node once: the text of a node when it is entered, and the end of a
line when a node that ends one is left.  It is as long as these are together.  And it is the
description of an issue, in every projection, whatever value represents the document, also if
the issue is decoded from it. -/
theorem RichText.flattened_in_document_order (node : RichText) :
    ((∃! visits, node.DepthFirst visits) ∧
      ∀ visits, node.DepthFirst visits →
        node.plainText = String.ofList (visits.flatMap node.emitted) ∧
        node.plainText.length = totalLength List.length (node.enteredNodes visits) ∧
        node.plainText.utf8ByteSize = totalLength byteLength (node.enteredNodes visits)) ∧
    ∀ value : Json, value.Represents node →
      (∀ issue : Issue, issue.details.description = some value →
        issue.ShowsDescription node.plainText) ∧
      ∀ (related? : Source → Option Issue) (source : Source) (fields : List (String × Source))
        (issue : Issue), IssueDetails.ofSource? related? source = some issue.details →
        source.fields? IssueDetails.fieldNames = some fields →
        fields.lookup "description" = some value.toSource →
          issue.ShowsDescription node.plainText := by
  refine ⟨⟨⟨node.walk, node.depthFirst_walk, fun others depthFirst => ?_⟩, ?_⟩, ?_⟩
  · exact node.depthFirst_walk.unique depthFirst
  · intro visits depthFirst
    obtain rfl := node.depthFirst_walk.unique depthFirst
    refine ⟨?_, ?_, ?_⟩
    · rw [plainText, plainChars_eq_flatMap_walk]
    · rw [plainText, String.length_ofList]
      exact isLength_length.plainChars node rfl
    · rw [plainText, ← byteLength_eq]
      exact isLength_byteLength.plainChars node rfl
  · intro value represents
    refine ⟨fun issue described => Issue.showsDescription_of_represents represents described, ?_⟩
    intro related? source fields issue decoded given described
    have description := IssueDetails.description_of_ofSource? decoded given represents described
    exact Issue.showsDescription_of_represents represents.sorted description

/-- A heading, and an item of a list with a line of its own. -/
def RichText.outline : RichText :=
  ⟨"doc", none,
    [⟨"heading", none, [⟨"text", some "Title", []⟩]⟩,
      ⟨"listItem", some "- ", [⟨"paragraph", some "", [⟨"", some "é", []⟩]⟩]⟩]⟩

/-- The same with further members, and without those that are empty. -/
def Json.outline : Json :=
  .object
    [("version", .number (.int 1)),
      ("content", .array
        [.object
            [("content", .array [.object [("text", .string "Title"), ("type", .string "text")]]),
              ("attrs", .object [("level", .null)]), ("type", .string "heading"),
              ("text", .null)],
          .object
            [("text", .string "- "), ("type", .string "listItem"),
              ("content", .array
                [.object
                  [("type", .string "paragraph"),
                    ("content", .array
                      [.object [("text", .string "é"), ("marks", .array [.null])]])]])]]),
      ("type", .string "doc")]

theorem RichText.represents_outline : Json.outline.Represents RichText.outline := by
  have title : (Json.object [("text", .string "Title"), ("type", .string "text")]).Represents
      ⟨"text", some "Title", []⟩ :=
    .object (by decide) (.inl rfl) (.inl rfl) (.inr ⟨rfl, rfl⟩) rfl (by simp)
  have word : (Json.object [("text", .string "é"), ("marks", .array [.null])]).Represents
      ⟨"", some "é", []⟩ :=
    .object (by decide) (.inr ⟨rfl, rfl⟩) (.inl rfl) (.inr ⟨rfl, rfl⟩) rfl (by simp)
  have paragraph : (Json.object [("type", .string "paragraph"),
      ("content", .array [.object [("text", .string "é"), ("marks", .array [.null])]])]).Represents
        ⟨"paragraph", some "", [⟨"", some "é", []⟩]⟩ :=
    .object (by decide) (.inl rfl) (.inr ⟨.inl rfl, rfl⟩) (.inl rfl) rfl (by simpa using word)
  refine .object (by decide) (.inl rfl) (.inr ⟨.inl rfl, rfl⟩) (.inl rfl) rfl ?_
  simp only [List.zip_cons_cons, List.zip_nil_right, List.forall_mem_singleton,
    List.forall_mem_cons]
  constructor
  · refine .object (by decide) (.inl rfl) (.inr ⟨.inr rfl, rfl⟩) (.inl rfl) rfl ?_
    simpa using title
  · refine .object (by decide) (.inl rfl) (.inl rfl) (.inl rfl) rfl ?_
    simpa using paragraph

/-- Members out of order, further ones and missing ones do not show in the text. -/
theorem RichText.outline_flattened :
    Json.outline.Represents RichText.outline ∧
      RichText.outline.DepthFirst RichText.outline.walk ∧
      totalLength List.length (RichText.outline.enteredNodes RichText.outline.walk) = 11 ∧
      totalLength byteLength (RichText.outline.enteredNodes RichText.outline.walk) = 12 ∧
      ({ details := { description := some Json.outline } } : Issue).ShowsDescription
        "Title\n- é\n\n" ∧
      IssueDetails.ofSource? Issue.ofSource?
          (.object [(some "description", Json.outline.toSource)]) =
        some { description := some Json.outline.sorted } ∧
      ({ details := { description := some Json.outline.sorted } } : Issue).ShowsDescription
        "Title\n- é\n\n" := by
  have text : RichText.outline.plainText = "Title\n- é\n\n" := rfl
  have depthFirst := RichText.outline.depthFirst_walk
  have decoded : IssueDetails.ofSource? Issue.ofSource?
      (.object [(some "description", Json.outline.toSource)]) =
        some { description := some Json.outline.sorted } := rfl
  obtain ⟨⟨-, flattened⟩, shown⟩ := flattened_in_document_order RichText.outline
  obtain ⟨-, length, size⟩ := flattened _ depthFirst
  obtain ⟨given, received⟩ := shown Json.outline represents_outline
  rw [text] at length size given received
  refine ⟨represents_outline, depthFirst, ?_, ?_, ?_, decoded, ?_⟩
  · rw [← length]
    decide
  · rw [← size]
    decide
  · exact given _ rfl
  · exact received _ _ _ _ decoded rfl rfl

end IssueQuery
