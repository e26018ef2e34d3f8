import IssueQuery.Field.Selection
import IssueQuery.Proofs.Encoding

namespace IssueQuery

/-! Resources encoded and decoded again.

Of what was decoded from a text, all that decoding again relies on is known: how deep it
is nested is checked, and of descriptions, which are of free form, reading gives the
sorted form and numbers that fit.
-/

open Json

namespace Json.Source

variable {α : Type} {decode : Source → Option α} {property : Number → Prop}

theorem eachNumber_of_knownMembers? {names : List String} {members : List (Option String × Source)}
    {fields : List (String × Source)} (each : ∀ member ∈ members, member.2.EachNumber property)
    (found : knownMembers? names members = some fields) :
    ∀ field ∈ fields, field.2.EachNumber property := by
  induction members generalizing fields with
  | nil =>
      cases found
      exact nofun
  | cons member rest ih =>
      obtain ⟨name, value⟩ := member
      obtain ⟨first, others⟩ := List.forall_mem_cons.mp each
      cases name with
      | none => cases found
      | some name =>
          rw [knownMembers?] at found
          split at found
          · cases found
          · rename_i following readOthers
            have kept := ih others readOthers
            split at found
            · split at found
              · cases found
              · cases found
                exact List.forall_mem_cons.mpr ⟨first, kept⟩
            · cases found
              exact kept

theorem eachNumber_of_fields? {names : List String} {source : Source}
    {fields : List (String × Source)} (each : source.EachNumber property)
    (found : source.fields? names = some fields) :
    ∀ field ∈ fields, field.2.EachNumber property := by
  cases each with
  | object each => exact eachNumber_of_knownMembers? each found
  | @array items each =>
      rw [fields?] at found
      split at found
      · cases found
        exact fun field listed => each field.2 (List.of_mem_zip listed).2
      · cases found
  | _ => cases found

theorem of_fieldD? {fields : List (String × Source)} {name : String} {default value : α}
    (given : fieldD? fields name decode default = some value) :
    value = default ∨ ∃ source, (name, source) ∈ fields ∧ decode source = some value := by
  unfold fieldD? at given
  split at given
  · rename_i source found
    obtain ⟨before, behind, rfl, -⟩ := List.lookup_eq_some_iff.mp found
    exact .inr ⟨source, by simp, given⟩
  · cases given
    exact .inl rfl

theorem of_optional? {source : Source} {content : α}
    (given : optional? decode source = some (some content)) :
    source ≠ .null ∧ decode source = some content := by
  unfold optional? at given
  split at given
  · cases given
  · rename_i something
    obtain ⟨_, decoded, same⟩ := Option.map_eq_some_iff.mp given
    cases same
    exact ⟨something, decoded⟩

theorem of_list? {source : Source} {values : List α} (given : list? decode source = some values) :
    ∃ items, source = .array items ∧
      ∀ value ∈ values, ∃ item ∈ items, decode item = some value := by
  cases source with
  | array items =>
      refine ⟨items, rfl, ?_⟩
      replace given : items.mapM decode = some values := given
      induction items generalizing values with
      | nil =>
          cases given
          exact nofun
      | cons item rest ih =>
          rw [List.mapM_cons] at given
          obtain ⟨first, decoded, following⟩ := Option.bind_eq_some_iff.mp given
          obtain ⟨others, decodedOthers, same⟩ := Option.bind_eq_some_iff.mp following
          cases same
          intro value member
          rcases List.mem_cons.mp member with rfl | later
          · exact ⟨item, List.mem_cons_self, decoded⟩
          · obtain ⟨source, listed, kept⟩ := ih decodedOthers value later
            exact ⟨source, List.mem_cons_of_mem _ listed, kept⟩
  | _ => cases given

end Json.Source

section Issues

open Json.Source

theorem IssueDetails.of_ofSource? {Related : Type} {related? : Source → Option Related}
    {source : Source} {details : IssueDetails Related}
    (decoded : IssueDetails.ofSource? related? source = some details) :
    ∃ fields, source.fields? fieldNames = some fields ∧
      fieldD? fields "description" (optional? Source.toJson?) none = some details.description ∧
      fieldD? fields "parent" (optional? related?) none = some details.parent ∧
      fieldD? fields "subtasks" (list? related?) [] = some details.subtasks := by
  obtain ⟨fields, found, decoded⟩ := Option.bind_eq_some_iff.mp decoded
  obtain ⟨summary, -, decoded⟩ := Option.bind_eq_some_iff.mp decoded
  obtain ⟨description, describes, decoded⟩ := Option.bind_eq_some_iff.mp decoded
  -- The type up to the labels.
  iterate 7 obtain ⟨_, -, decoded⟩ := Option.bind_eq_some_iff.mp decoded
  obtain ⟨parent, hasParent, decoded⟩ := Option.bind_eq_some_iff.mp decoded
  obtain ⟨subtasks, hasSubtasks, decoded⟩ := Option.bind_eq_some_iff.mp decoded
  iterate 2 obtain ⟨_, -, decoded⟩ := Option.bind_eq_some_iff.mp decoded
  cases decoded
  exact ⟨fields, found, describes, hasParent, hasSubtasks⟩

theorem Issue.received_of_decodeWithin? {fuel : Nat} {source : Source} {issue : Issue}
    (bounded : source.EachNumber Number.Bounded)
    (decoded : decodeWithin? fuel source = some issue) :
    issue.EachDescription Json.Received := by
  induction fuel generalizing source issue with
  | zero => cases decoded
  | succ fuel ih =>
      rw [decodeWithin?] at decoded
      obtain ⟨fields, found, decoded⟩ := Option.bind_eq_some_iff.mp decoded
      obtain ⟨id, -, decoded⟩ := Option.bind_eq_some_iff.mp decoded
      obtain ⟨key, -, decoded⟩ := Option.bind_eq_some_iff.mp decoded
      obtain ⟨details, detailed, decoded⟩ := Option.bind_eq_some_iff.mp decoded
      cases decoded
      have fieldsBounded := eachNumber_of_fields? bounded found
      rcases of_fieldD? detailed with rfl | ⟨inner, within, detailsDecoded⟩
      · exact .intro (by simp) (by simp) (by simp)
      obtain ⟨fields, found, describes, hasParent, hasSubtasks⟩ :=
        IssueDetails.of_ofSource? detailsDecoded
      have partsBounded := eachNumber_of_fields? (fieldsBounded _ within) found
      constructor
      · intro value present
        rcases of_fieldD? describes with absent | ⟨given, listed, read⟩
        · rw [present] at absent
          cases absent
        · rw [present] at read
          obtain ⟨something, free⟩ := of_optional? read
          refine ⟨?_, sorted_of_toJson? free, eachNumber_of_toJson? (partsBounded _ listed) free⟩
          intro null
          rw [null] at free
          exact something (eq_null_of_toJson? free)
      · intro related present
        rcases of_fieldD? hasParent with absent | ⟨given, listed, read⟩
        · rw [present] at absent
          cases absent
        · rw [present] at read
          exact ih (partsBounded _ listed) (of_optional? read).2
      · intro related member
        rcases of_fieldD? hasSubtasks with absent | ⟨given, listed, read⟩
        · rw [absent] at member
          cases member
        · obtain ⟨items, rfl, each⟩ := of_list? read
          obtain ⟨item, itemListed, itemDecoded⟩ := each related member
          cases partsBounded _ listed with
          | array itemsBounded => exact ih (itemsBounded item itemListed) itemDecoded

end Issues

section Numbers

variable {property : Number → Prop}

theorem Project.eachNumber_toJson (project : Project) : project.toJson.EachNumber property := by
  simp [Project.toJson]

theorem IssueType.eachNumber_toJson (type : IssueType) : type.toJson.EachNumber property := by
  simp [IssueType.toJson]

theorem Status.eachNumber_toJson (status : Status) : status.toJson.EachNumber property := by
  simp [Status.toJson]

theorem Priority.eachNumber_toJson (priority : Priority) : priority.toJson.EachNumber property := by
  simp [Priority.toJson]

theorem User.eachNumber_toJson (user : User) : user.toJson.EachNumber property := by
  simp [User.toJson]

theorem Board.eachFits_toJson (board : Board) : board.toJson.EachNumber Number.Fits := by
  have small := board.id.toNat_lt
  have fits : Number.Fits (.int board.id.toNat) := by
    rw [Number.Fits, Text.intPow_two_63, Text.intPow_two_64]
    omega
  simpa [Board.toJson, ofNat] using fits

mutual

theorem RichText.eachNumber_toJson : (node : RichText) → node.toJson.EachNumber property
  | ⟨type, text, content⟩ => by
      have textPlain : (ofOption Json.string text).EachNumber property :=
        eachNumber_ofOption fun _ _ => .string _
      simpa [RichText.toJson, textPlain] using RichText.eachNumber_contentToJson content

theorem RichText.eachNumber_contentToJson : (content : List RichText) →
    ∀ item ∈ contentToJson content, item.EachNumber property
  | [] => nofun
  | node :: rest => List.forall_mem_cons.mpr
      ⟨RichText.eachNumber_toJson node, RichText.eachNumber_contentToJson rest⟩

end

theorem Issue.eachNumber_toJson {issue : Issue}
    (each : issue.EachDescription fun value => value.EachNumber property) :
    issue.toJson.EachNumber property := by
  induction each with
  | @intro issue description _ _ parent subtasks =>
      have texts (value : Option String) : (ofOption .string value).EachNumber property :=
        eachNumber_ofOption fun _ _ => .string _
      rw [toJson_eq]
      simp only [IssueDetails.members, eachNumber_object_iff, List.forall_mem_cons,
        eachNumber_string, eachNumber_array_iff, List.forall_mem_map, implies_true, true_and,
        texts, List.not_mem_nil, false_imp_iff, and_true]
      exact ⟨eachNumber_ofOption description,
        eachNumber_ofOption fun type _ => type.eachNumber_toJson,
        eachNumber_ofOption fun project _ => project.eachNumber_toJson,
        eachNumber_ofOption fun status _ => status.eachNumber_toJson,
        eachNumber_ofOption fun priority _ => priority.eachNumber_toJson,
        eachNumber_ofOption fun user _ => user.eachNumber_toJson,
        eachNumber_ofOption fun user _ => user.eachNumber_toJson,
        eachNumber_ofOption parent, subtasks⟩

theorem Issue.EachDescription.imp {weaker stronger : Json → Prop} {issue : Issue}
    (each : issue.EachDescription stronger) (weaken : ∀ value, stronger value → weaker value) :
    issue.EachDescription weaker := by
  induction each with
  | intro description _ _ parent subtasks =>
      exact .intro (fun value present => weaken value (description value present)) parent subtasks

end Numbers

namespace Json

def decodeText? {α : Type} (decode? : Source → Option α) (text : String) : Option α :=
  (Source.ofText? text).bind decode?

theorem decodeText?_compact {α : Type} {decode? : Source → Option α} {encoded : Json} {value : α}
    (fit : encoded.EachNumber Number.Fits) (shallow : encoded.depth ≤ Source.depthLimit)
    (decoded : decode? encoded.toSource = some value) :
    decodeText? decode? encoded.compact = some value := by
  have read := Source.ofText?_of_spells fit.spells_writeCompact shallow blanks_nil blanks_nil
  rw [List.append_nil, List.nil_append] at read
  rw [decodeText?, compact, read, Option.bind_some, decoded]

end Json

theorem Issue.decodeText?_toJson {text : String} {issue : Issue}
    (decoded : decodeText? ofSource? text = some issue)
    (whole : issue.EachDescription fun value => value.EachNumber Number.IsWhole)
    (shallow : issue.toJson.depth ≤ Source.depthLimit) :
    decodeText? ofSource? issue.toJson.compact = some issue := by
  obtain ⟨source, read, decoded⟩ := Option.bind_eq_some_iff.mp decoded
  have received : issue.EachDescription Json.Received :=
    received_of_decodeWithin? (Source.bounded_of_ofText? read) decoded
  have bounded := eachNumber_toJson (received.imp fun _ received => received.bounded)
  exact decodeText?_compact (bounded.fits (eachNumber_toJson whole)) shallow
    (ofSource?_toJson received)

/-- Whether two issues cannot be told apart by how they are written, shown, sorted and projected. -/
structure Issue.SeenAs (seen issue : Issue) : Prop where
  written : seen.toJson.compact = issue.toJson.compact
  value (field : Field) : field.value? seen = field.value? issue
  sortKey (field : Field) : field.sortKey seen = field.sortKey issue
  projected (selection : Selection) : selection.project seen = selection.project issue

/-- Whether the text of an encoded issue is the text of that issue and no other. -/
structure Issue.Recoded (issue : Issue) : Prop where
  same : decodeText? ofSource? issue.toJson.compact = some issue
  seenAs {again : Issue} (decoded : decodeText? ofSource? issue.toJson.compact = some again) :
    again.SeenAs issue

theorem Issue.recoded_of_decodeText? {text : String} {issue : Issue}
    (decoded : decodeText? ofSource? text = some issue)
    (whole : issue.EachDescription fun value => value.EachNumber Number.IsWhole)
    (shallow : issue.toJson.depth ≤ Source.depthLimit) : issue.Recoded := by
  have same := decodeText?_toJson decoded whole shallow
  refine ⟨same, fun {again} decodedAgain => ?_⟩
  obtain rfl : issue = again := Option.some.inj (same.symm.trans decodedAgain)
  exact ⟨rfl, fun _ => rfl, fun _ => rfl, fun _ => rfl⟩

/-- Which resources are the same after they are encoded and decoded: an issue that came of a
text, a node that is not nested too deep, and every project, board and user. -/
structure ResourcesRecoded : Prop where
  issue {text : String} {issue : Issue} (decoded : decodeText? Issue.ofSource? text = some issue)
    (whole : issue.EachDescription fun value => value.EachNumber Number.IsWhole)
    (shallow : issue.toJson.depth ≤ Source.depthLimit) : issue.Recoded
  richText (node : RichText) (shallow : node.toJson.depth ≤ Source.depthLimit) :
    decodeText? RichText.ofSource? node.toJson.compact = some node
  project (project : Project) :
    decodeText? Project.ofSource? project.toJson.compact = some project
  board (board : Board) : decodeText? Board.ofSource? board.toJson.compact = some board
  user (user : User) : decodeText? User.ofSource? user.toJson.compact = some user

/-- Encoding a decoded resource and decoding it again changes nothing. -/
theorem resources_recoded : ResourcesRecoded where
  issue := Issue.recoded_of_decodeText?
  richText node shallow := decodeText?_compact node.eachNumber_toJson shallow node.ofSource?_toJson
  project project := by
    have shallow : project.toJson.depth ≤ Source.depthLimit := by
      simp [Project.toJson, depth, membersDepth, Source.depthLimit]
    exact decodeText?_compact project.eachNumber_toJson shallow project.ofSource?_toJson
  board board := by
    have shallow : board.toJson.depth ≤ Source.depthLimit := by
      simp [Board.toJson, ofNat, depth, membersDepth, Source.depthLimit]
    exact decodeText?_compact board.eachFits_toJson shallow board.ofSource?_toJson
  user user := by
    have shallow : user.toJson.depth ≤ Source.depthLimit := by
      simp [User.toJson, depth, membersDepth, Source.depthLimit]
    exact decodeText?_compact user.eachNumber_toJson shallow user.ofSource?_toJson

/-- An issue with records as arrays, members out of order, unknown ones among them, and
related issues of which little is said. -/
def sparseText : String :=
  "[\"7\",\"A-1\",\x7b\"votes\":3,\"subtasks\":[[],[\"9\",\"\\u0000\"]],\"description\":" ++
    "\x7b\"b\":[-9223372036854775808],\"a\":null\x7d,\"priority\":[\"3\"],\"status\":null," ++
    "\"parent\":\x7b\"key\":\"A-0\",\"fields\":[\"Up\"]\x7d\x7d]"

def sparseJson : Json :=
  .array [.string "7", .string "A-1", .object
    [("votes", .number (.int 3)),
      ("subtasks", .array [.array [], .array [.string "9", .string "\x00"]]),
      ("description", .object [("b", .array [.number (.int (-9223372036854775808))]),
        ("a", .null)]),
      ("priority", .array [.string "3"]), ("status", .null),
      ("parent", .object [("key", .string "A-0"), ("fields", .array [.string "Up"])])]]

def sparseIssue : Issue where
  id := "7"
  key := "A-1"
  details := {
    description := some (.object
      [("a", .null), ("b", .array [.number (.int (-9223372036854775808))])])
    priority := some { id := "3" }
    parent := some { key := "A-0", details := { summary := some "Up" } }
    subtasks := [{}, { id := "9", key := "\x00" }] }

theorem decodeText?_sparseText : decodeText? Issue.ofSource? sparseText = some sparseIssue := by
  have written : sparseText = sparseJson.compact := by decide +kernel
  have fit : sparseJson.EachNumber Number.Fits := by
    simp [sparseJson, Number.Fits]
  rw [written]
  exact decodeText?_compact fit (by decide) (by rfl)

def nestedNode : RichText where
  type := "paragraph"
  content := [{ type := "text", text := some "\"\n" }, { content := [{}] }]

theorem sparse_resources_recoded :
    decodeText? Issue.ofSource? sparseText = some sparseIssue ∧
      sparseIssue.EachDescription (fun value => value.EachNumber Number.IsWhole) ∧
      sparseIssue.toJson.depth ≤ Source.depthLimit ∧
      decodeText? Issue.ofSource? sparseIssue.toJson.compact = some sparseIssue ∧
      nestedNode.toJson.depth ≤ Source.depthLimit ∧
      decodeText? RichText.ofSource? nestedNode.toJson.compact = some nestedNode := by
  have plain (issue : Issue) (description : issue.details.description = none)
      (parent : issue.details.parent = none) (subtasks : issue.details.subtasks = []) :
      issue.EachDescription fun value => value.EachNumber Number.IsWhole :=
    .intro (by simp [description]) (by simp [parent]) (by simp [subtasks])
  have whole : sparseIssue.EachDescription fun value => value.EachNumber Number.IsWhole := by
    constructor
    · simp [sparseIssue, Number.IsWhole]
    · rintro related ⟨⟩
      exact plain _ rfl rfl rfl
    · simp [sparseIssue, plain]
  have shallow : sparseIssue.toJson.depth ≤ Source.depthLimit := by decide
  have nodeShallow : nestedNode.toJson.depth ≤ Source.depthLimit := by decide
  exact ⟨decodeText?_sparseText, whole, shallow,
    (resources_recoded.issue decodeText?_sparseText whole shallow).same, nodeShallow,
    resources_recoded.richText nestedNode nodeShallow⟩

end IssueQuery
