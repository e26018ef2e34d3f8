import IssueQuery.Issue.Codec
import IssueQuery.Issue.RichText
import IssueQuery.Proofs.Reception

namespace IssueQuery

/-! Decoding what was encoded.

Encoding a record writes just the members that decoding looks for, so each of them is
found again.  Records that hold others of their kind follow by the fuel of their decoders.
-/

namespace Json

theorem depth_le_itemsDepth {item : Json} {items : List Json} (member : item ∈ items) :
    item.depth ≤ itemsDepth items := by
  induction items with
  | nil => cases member
  | cons head rest ih =>
      rw [itemsDepth]
      rcases List.mem_cons.mp member with rfl | later
      · exact le_max_left _ _
      · exact (ih later).trans (le_max_right _ _)

theorem depth_le_membersDepth {member : String × Json} {members : List (String × Json)}
    (listed : member ∈ members) : member.2.depth ≤ membersDepth members := by
  induction members with
  | nil => cases listed
  | cons head rest ih =>
      rw [membersDepth]
      rcases List.mem_cons.mp listed with rfl | later
      · exact le_max_left _ _
      · exact (ih later).trans (le_max_right _ _)

theorem depth_lt_array {item : Json} {items : List Json} (member : item ∈ items) :
    item.depth < (Json.array items).depth :=
  Nat.lt_succ_of_le (depth_le_itemsDepth member)

theorem depth_lt_object (name : String) {value : Json} {members : List (String × Json)}
    (listed : (name, value) ∈ members) : value.depth < (Json.object members).depth :=
  Nat.lt_succ_of_le (depth_le_membersDepth listed)

mutual

theorem depth_toSource : (value : Json) → value.toSource.depth = value.depth
  | .null => rfl
  | .bool _ => rfl
  | .number _ => rfl
  | .string _ => rfl
  | .array items => congrArg (· + 1) (itemsDepth_itemsToSource items)
  | .object members => congrArg (· + 1) (membersDepth_membersToSource members)

theorem itemsDepth_itemsToSource : (items : List Json) →
    Source.itemsDepth (itemsToSource items) = itemsDepth items
  | [] => rfl
  | item :: rest => by
      rw [itemsToSource, Source.itemsDepth, itemsDepth, depth_toSource item,
        itemsDepth_itemsToSource rest]

theorem membersDepth_membersToSource : (members : List (String × Json)) →
    Source.membersDepth (membersToSource members) = membersDepth members
  | [] => rfl
  | (name, value) :: rest => by
      rw [membersToSource, Source.membersDepth, membersDepth, depth_toSource value,
        membersDepth_membersToSource rest]

end

theorem itemsToSource_eq_map (items : List Json) : itemsToSource items = items.map toSource := by
  induction items with
  | nil => rfl
  | cons item rest ih => rw [itemsToSource, ih, List.map_cons]

namespace Source

variable {α : Type} {names : List String} {fields : List (String × Source)} {name : String}

/-- Of members with distinct names, those that a decoder knows are kept. -/
theorem knownMembers?_membersToSource {members : List (String × Json)}
    (distinct : (members.map (·.1)).Nodup) (names : List String) :
    knownMembers? names (membersToSource members) =
      some ((members.filter fun member => names.contains member.1).map (Prod.map id toSource)) := by
  induction members with
  | nil => rfl
  | cons member rest ih =>
      obtain ⟨fresh, restDistinct⟩ := List.nodup_cons.mp distinct
      have absent : ((rest.filter fun other => names.contains other.1).map
          (Prod.map id toSource)).lookup member.1 = none := by
        refine List.lookup_eq_none_iff.mpr ?_
        intro other listed
        obtain ⟨given, within, rfl⟩ := List.mem_map.mp listed
        refine bne_iff_ne.mpr fun same => fresh ?_
        exact List.mem_map.mpr ⟨given, List.mem_of_mem_filter within, same.symm⟩
      rw [membersToSource, knownMembers?, ih restDistinct]
      by_cases known : names.contains member.1 = true
      · simp only [known, absent, if_true, List.filter_cons_of_pos]
        rfl
      · simp only [known, if_false, List.filter_cons_of_neg, not_false_eq_true, Bool.false_eq_true]

/-- An object with the members a decoder looks for is found to have them. -/
theorem fields?_toSource {members : List (String × Json)} (names : List String)
    (named : members.map (·.1) = names) (distinct : names.Nodup) :
    (Json.object members).toSource.fields? names = some (members.map (Prod.map id toSource)) := by
  subst named
  have allKnown : ∀ member ∈ members, (members.map (·.1)).contains member.1 = true := by
    intro member listed
    exact List.contains_iff_mem.mpr (List.mem_map_of_mem listed)
  refine (knownMembers?_membersToSource distinct _).trans ?_
  rw [List.filter_eq_self.mpr allKnown]

theorem bind_fieldD? {β : Type} {source : Source} {decode : Source → Option α}
    {default value : α} {next : α → Option β} {result : β}
    (found : fields.lookup name = some source) (read : decode source = some value)
    (following : next value = some result) :
    (fieldD? fields name decode default >>= next) = some result := by
  rw [fieldD?, found]
  exact Option.bind_eq_some_iff.mpr ⟨value, read, following⟩

theorem optional?_ofOption {decode : Source → Option α} {encode : α → Json} {value : Option α}
    (solid : ∀ content, value = some content → encode content ≠ .null)
    (back : ∀ content, value = some content → decode (encode content).toSource = some content) :
    optional? decode (ofOption encode value).toSource = some value := by
  cases value with
  | none => rfl
  | some content =>
      have kept := back content rfl
      have something := solid content rfl
      rw [ofOption]
      cases written : encode content with
      | null => exact absurd written something
      | _ =>
        rw [written] at kept
        exact congrArg (Option.map some) kept

theorem list?_toSource {decode : Source → Option α} {encode : α → Json} {values : List α}
    (back : ∀ value ∈ values, decode (encode value).toSource = some value) :
    list? decode (Json.array (values.map encode)).toSource = some values := by
  rw [toSource, list?, itemsToSource_eq_map]
  induction values with
  | nil => rfl
  | cons value rest ih =>
      obtain ⟨first, others⟩ := List.forall_mem_cons.mp back
      rw [List.map_cons, List.map_cons, List.mapM_cons, first, ih others]
      rfl

theorem word?_ofNat (word : UInt64) : word? (Json.ofNat word.toNat).toSource = some word := by
  have small : (word.toNat : Int) < UInt64.size := by exact_mod_cast word.toNat_lt
  rw [ofNat, toSource, word?, if_pos ⟨by omega, small⟩]
  simp

end Source

end Json

open Json

/-- A value of free form as reading gives it: not null, in its sorted form, and with
numbers that a text can give. -/
structure Json.Received (value : Json) : Prop where
  something : value ≠ .null
  sorted_eq : value.sorted = value
  bounded : value.EachNumber Number.Bounded

/-- Whether the description of an issue, and that of each issue in it, has a property if
there is one. -/
inductive Issue.EachDescription (property : Json → Prop) : Issue → Prop
  | intro {issue : Issue}
      (description : ∀ value, issue.details.description = some value → property value)
      (parent : ∀ related, issue.details.parent = some related → EachDescription property related)
      (subtasks : ∀ related ∈ issue.details.subtasks, EachDescription property related) :
      EachDescription property issue

section Records

open Json.Source

theorem IssueType.ofSource?_toJson (type : IssueType) :
    IssueType.ofSource? type.toJson.toSource = some type := by
  rw [IssueType.ofSource?, IssueType.toJson, fields?_toSource]
  · simp [fieldD?, lookup_cons_if, toSource, Source.string?, Source.bool?]
  · rfl
  · decide

theorem Status.ofSource?_toJson (status : Status) :
    Status.ofSource? status.toJson.toSource = some status := by
  rw [Status.ofSource?, Status.toJson, fields?_toSource]
  · simp [fieldD?, lookup_cons_if, toSource, Source.string?]
  · rfl
  · decide

theorem Priority.ofSource?_toJson (priority : Priority) :
    Priority.ofSource? priority.toJson.toSource = some priority := by
  rw [Priority.ofSource?, Priority.toJson, fields?_toSource]
  · simp [fieldD?, lookup_cons_if, toSource, Source.string?]
  · rfl
  · decide

theorem User.ofSource?_toJson (user : User) : User.ofSource? user.toJson.toSource = some user := by
  rw [User.ofSource?, User.toJson, fields?_toSource]
  · simp [fieldD?, lookup_cons_if, toSource, Source.string?]
  · rfl
  · decide

theorem Project.ofSource?_toJson (project : Project) :
    Project.ofSource? project.toJson.toSource = some project := by
  rw [Project.ofSource?, Project.toJson, fields?_toSource]
  · simp [fieldD?, lookup_cons_if, toSource, Source.string?]
  · rfl
  · decide

theorem Board.ofSource?_object {board : Board} {id : Json}
    (word : id.toSource.word? = some board.id) :
    Board.ofSource? (Json.object [("id", id), ("name", .string board.name),
      ("type", .string board.type)]).toSource = some board := by
  rw [Board.ofSource?, fields?_toSource]
  · simp [fieldD?, lookup_cons_if, toSource, Source.string?, word]
  · rfl
  · decide

theorem Board.ofSource?_toJson (board : Board) :
    Board.ofSource? board.toJson.toSource = some board :=
  ofSource?_object (word?_ofNat board.id)

end Records

section Details

open Json.Source

variable {Related : Type} {related? : Source → Option Related} {details : IssueDetails Related}
  {summary description type project status priority assignee reporter labels parent subtasks
    created updated : Json}

theorem IssueDetails.ofSource?_object
    (summaryRead : optional? Source.string? summary.toSource = some details.summary)
    (descriptionRead : optional? Source.toJson? description.toSource = some details.description)
    (typeRead : optional? IssueType.ofSource? type.toSource = some details.type)
    (projectRead : optional? Project.ofSource? project.toSource = some details.project)
    (statusRead : optional? Status.ofSource? status.toSource = some details.status)
    (priorityRead : optional? Priority.ofSource? priority.toSource = some details.priority)
    (assigneeRead : optional? User.ofSource? assignee.toSource = some details.assignee)
    (reporterRead : optional? User.ofSource? reporter.toSource = some details.reporter)
    (labelsRead : list? Source.string? labels.toSource = some details.labels)
    (parentRead : optional? related? parent.toSource = some details.parent)
    (subtasksRead : list? related? subtasks.toSource = some details.subtasks)
    (createdRead : optional? Source.string? created.toSource = some details.created)
    (updatedRead : optional? Source.string? updated.toSource = some details.updated) :
    IssueDetails.ofSource? related? (Json.object
      [("summary", summary), ("description", description), ("issuetype", type),
        ("project", project), ("status", status), ("priority", priority), ("assignee", assignee),
        ("reporter", reporter), ("labels", labels), ("parent", parent), ("subtasks", subtasks),
        ("created", created), ("updated", updated)]).toSource = some details := by
  rw [IssueDetails.ofSource?, fields?_toSource fieldNames rfl (by decide), Option.bind_eq_bind,
    Option.bind_some]
  refine bind_fieldD? List.lookup_cons_self summaryRead ?_
  refine bind_fieldD? (by simp [lookup_cons_if]) descriptionRead ?_
  refine bind_fieldD? (by simp [lookup_cons_if]) typeRead ?_
  refine bind_fieldD? (by simp [lookup_cons_if]) projectRead ?_
  refine bind_fieldD? (by simp [lookup_cons_if]) statusRead ?_
  refine bind_fieldD? (by simp [lookup_cons_if]) priorityRead ?_
  refine bind_fieldD? (by simp [lookup_cons_if]) assigneeRead ?_
  refine bind_fieldD? (by simp [lookup_cons_if]) reporterRead ?_
  refine bind_fieldD? (by simp [lookup_cons_if]) labelsRead ?_
  refine bind_fieldD? (by simp [lookup_cons_if]) parentRead ?_
  refine bind_fieldD? (by simp [lookup_cons_if]) subtasksRead ?_
  refine bind_fieldD? (by simp [lookup_cons_if]) createdRead ?_
  refine bind_fieldD? (by simp [lookup_cons_if]) updatedRead ?_
  rfl

end Details

theorem Issue.parentToJson_eq (parent : Option Issue) :
    parentToJson parent = ofOption toJson parent := by
  cases parent <;> rfl

theorem Issue.subtasksToJson_eq_map (subtasks : List Issue) :
    subtasksToJson subtasks = subtasks.map toJson := by
  induction subtasks with
  | nil => rfl
  | cons issue rest ih => rw [subtasksToJson, ih, List.map_cons]

/-- The members of the encoded details, with absent ones as null. -/
def IssueDetails.members (details : IssueDetails Issue) : List (String × Json) :=
  [("summary", ofOption .string details.summary),
    ("description", ofOption id details.description),
    ("issuetype", ofOption IssueType.toJson details.type),
    ("project", ofOption Project.toJson details.project),
    ("status", ofOption Status.toJson details.status),
    ("priority", ofOption Priority.toJson details.priority),
    ("assignee", ofOption User.toJson details.assignee),
    ("reporter", ofOption User.toJson details.reporter),
    ("labels", .array (details.labels.map .string)),
    ("parent", ofOption Issue.toJson details.parent),
    ("subtasks", .array (details.subtasks.map Issue.toJson)),
    ("created", ofOption .string details.created),
    ("updated", ofOption .string details.updated)]

theorem IssueDetails.toJson_eq (details : IssueDetails Issue) :
    Issue.detailsToJson details = .object details.members := by
  obtain ⟨summary, description, type, project, status, priority, assignee, reporter, labels,
    parent, subtasks, created, updated⟩ := details
  have free : description.getD .null = ofOption id description := by cases description <;> rfl
  rw [Issue.detailsToJson, members, Issue.parentToJson_eq, Issue.subtasksToJson_eq_map, free,
    ofStrings]

theorem Issue.toJson_eq (issue : Issue) :
    issue.toJson = .object [("id", .string issue.id), ("key", .string issue.key),
      ("fields", .object issue.details.members)] := by
  obtain ⟨id, key, details⟩ := issue
  rw [toJson, IssueDetails.toJson_eq]

/-- Whatever stands in the details is nested less deeply than the issue. -/
theorem Issue.depth_lt_of_detail (issue : Issue) (name : String) {part : Json}
    (listed : (name, part) ∈ issue.details.members) :
    part.depth + 1 < issue.toJson.depth := by
  have inDetails := depth_lt_object name listed
  have inIssue : (Json.object issue.details.members).depth < issue.toJson.depth := by
    rw [toJson_eq]
    exact depth_lt_object "fields" (by simp)
  omega

theorem RichText.contentToJson_eq_map (content : List RichText) :
    contentToJson content = content.map toJson := by
  induction content with
  | nil => rfl
  | cons node rest ih => rw [contentToJson, ih, List.map_cons]

section Nodes

open Json.Source

theorem optional?_string (value : Option String) :
    optional? Source.string? (ofOption Json.string value).toSource = some value :=
  optional?_ofOption (fun _ _ => nofun) fun _ _ => rfl

theorem RichText.decodeWithin?_object {fuel : Nat} (type : String) (text : Option String)
    {content : List RichText} {encoded : Json}
    (contentRead : list? (decodeWithin? fuel) encoded.toSource = some content) :
    decodeWithin? (fuel + 1) (Json.object [("type", .string type), ("text", ofOption .string text),
      ("content", encoded)]).toSource = some ⟨type, text, content⟩ := by
  rw [decodeWithin?, fields?_toSource]
  · simp [fieldD?, lookup_cons_if, toSource, Source.string?, optional?_string, contentRead]
  · rfl
  · decide

theorem RichText.decodeWithin?_toJson {fuel : Nat} {node : RichText}
    (enough : node.toJson.depth < fuel) : decodeWithin? fuel node.toJson.toSource = some node := by
  induction fuel generalizing node with
  | zero => cases enough
  | succ fuel ih =>
      obtain ⟨type, text, content⟩ := node
      rw [toJson]
      refine decodeWithin?_object type text ?_
      rw [contentToJson_eq_map]
      refine list?_toSource fun child member => ih ?_
      have inContent : child.toJson.depth < (Json.array (content.map toJson)).depth :=
        depth_lt_array (List.mem_map_of_mem member)
      have inNode : (Json.array (contentToJson content)).depth <
          (RichText.toJson ⟨type, text, content⟩).depth := by
        rw [toJson]
        exact depth_lt_object "content" (by simp)
      rw [contentToJson_eq_map] at inNode
      omega

theorem RichText.ofSource?_toJson (node : RichText) :
    RichText.ofSource? node.toJson.toSource = some node :=
  decodeWithin?_toJson (by rw [depth_toSource]; exact Nat.lt_succ_self _)

end Nodes

section Issues

open Json.Source

theorem Issue.decodeWithin?_object {fuel : Nat} (id key : String) {details : IssueDetails Issue}
    {encoded : Json}
    (detailsRead : IssueDetails.ofSource? (decodeWithin? fuel) encoded.toSource = some details) :
    decodeWithin? (fuel + 1) (Json.object [("id", .string id), ("key", .string key),
      ("fields", encoded)]).toSource = some ⟨id, key, details⟩ := by
  rw [decodeWithin?, fields?_toSource]
  · simp [fieldD?, lookup_cons_if, toSource, Source.string?, detailsRead]
  · rfl
  · decide

theorem optional?_description {description : Option Json}
    (received : ∀ value, description = some value → value.Received) :
    optional? Source.toJson? (ofOption id description).toSource = some description := by
  refine optional?_ofOption (fun value present => (received value present).something) ?_
  intro value present
  rw [id, toJson?_toSource, (received value present).sorted_eq]

theorem Issue.decodeWithin?_toJson {issue : Issue} (received : issue.EachDescription Json.Received)
    {fuel : Nat} (enough : issue.toJson.depth < fuel) :
    decodeWithin? fuel issue.toJson.toSource = some issue := by
  -- On the fuel, since an issue has others in two of its members.
  induction fuel generalizing issue with
  | zero => cases enough
  | succ fuel ih =>
      obtain ⟨description, parent, subtasks⟩ := received
      have parentRead : optional? (decodeWithin? fuel)
          (ofOption toJson issue.details.parent).toSource = some issue.details.parent := by
        refine optional?_ofOption (fun related _ => by rw [toJson_eq]; nofun) ?_
        intro related present
        have listed : ("parent", related.toJson) ∈ issue.details.members := by
          simp [IssueDetails.members, present, ofOption]
        have inIssue := issue.depth_lt_of_detail "parent" listed
        exact ih (parent related present) (by omega)
      have subtasksRead : list? (decodeWithin? fuel)
          (Json.array (issue.details.subtasks.map toJson)).toSource =
            some issue.details.subtasks := by
        refine list?_toSource fun related member => ih (subtasks related member) ?_
        have inList : related.toJson.depth <
            (Json.array (issue.details.subtasks.map toJson)).depth :=
          depth_lt_array (List.mem_map_of_mem member)
        have listed : ("subtasks", .array (issue.details.subtasks.map toJson)) ∈
            issue.details.members := by
          simp [IssueDetails.members]
        have inIssue := issue.depth_lt_of_detail "subtasks" listed
        omega
      rw [toJson_eq]
      obtain ⟨id, key, details⟩ := issue
      refine decodeWithin?_object id key ?_
      exact IssueDetails.ofSource?_object (optional?_string _) (optional?_description description)
        (optional?_ofOption (fun _ _ => nofun) fun type _ => type.ofSource?_toJson)
        (optional?_ofOption (fun _ _ => nofun) fun project _ => project.ofSource?_toJson)
        (optional?_ofOption (fun _ _ => nofun) fun status _ => status.ofSource?_toJson)
        (optional?_ofOption (fun _ _ => nofun) fun priority _ => priority.ofSource?_toJson)
        (optional?_ofOption (fun _ _ => nofun) fun user _ => user.ofSource?_toJson)
        (optional?_ofOption (fun _ _ => nofun) fun user _ => user.ofSource?_toJson)
        (list?_toSource fun _ _ => rfl) parentRead subtasksRead (optional?_string _)
        (optional?_string _)

theorem Issue.ofSource?_toJson {issue : Issue} (received : issue.EachDescription Json.Received) :
    Issue.ofSource? issue.toJson.toSource = some issue :=
  decodeWithin?_toJson received (by rw [depth_toSource]; exact Nat.lt_succ_self _)

end Issues

end IssueQuery
