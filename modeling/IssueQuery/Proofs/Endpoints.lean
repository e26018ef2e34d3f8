import IssueQuery.Proofs.ByteOrder
import IssueQuery.Proofs.Precedence

namespace IssueQuery

/-! Where requests by key are sent.

A key becomes one segment of a path.  Whatever passes a path on may first remove its dot
segments, which are the segments `.` and `..`; since the point means itself in an address, a key
can be one of these.
-/

namespace Text

/-- The bytes that are written as characters and percent triples. -/
def percentDecode? : List Char → Option (List UInt8)
  | [] => some []
  | '%' :: high :: low :: rest => do
      let value := (← Json.Source.hexValue? high) * 16 + (← Json.Source.hexValue? low)
      return value.toUInt8 :: (← percentDecode? rest)
  | '%' :: _ => none
  | character :: rest => return character.toNat.toUInt8 :: (← percentDecode? rest)

theorem hexValue?_upperHexDigit : ∀ value < 16,
    Json.Source.hexValue? (upperHexDigit value) = some value := by decide

theorem upperHexDigit_ne_slash : ∀ value < 16, upperHexDigit value ≠ '/' := by decide

theorem toNat_ofNat_byte (byte : UInt8) : (Char.ofNat byte.toNat).toNat = byte.toNat := by
  have small := byte.toNat_lt
  have valid : byte.toNat.isValidChar := .inl (by omega)
  rw [Char.ofNat, dif_pos valid]
  rfl

/-- The reserved characters only stand for themselves in triples. -/
theorem ofNat_ne_of_isUnreserved {byte : UInt8} (unreserved : isUnreserved byte = true)
    {character : Char} (reserved : isUnreserved character.toNat.toUInt8 = false) :
    Char.ofNat byte.toNat ≠ character := by
  intro same
  have number : character.toNat.toUInt8 = byte := by
    rw [← same, toNat_ofNat_byte]
    exact UInt8.ofNat_toNat
  rw [number, unreserved] at reserved
  cases reserved

theorem percentDecode?_plain {character : Char} (plain : character ≠ '%') (rest : List Char) :
    percentDecode? (character :: rest) =
      (percentDecode? rest).map (character.toNat.toUInt8 :: ·) := by
  rw [percentDecode?.eq_4 _ _ (fun _ _ _ isMark _ => plain isMark) plain]
  cases percentDecode? rest <;> rfl

theorem percentDecode?_triple (byte : UInt8) (rest : List Char) :
    percentDecode? (percentTriple byte ++ rest) = (percentDecode? rest).map (byte :: ·) := by
  have small := byte.toNat_lt
  have value : (byte.toNat / 16 * 16 + byte.toNat % 16).toUInt8 = byte := by
    rw [Nat.div_add_mod']
    exact UInt8.ofNat_toNat
  simp only [percentTriple, List.cons_append, List.nil_append, percentDecode?,
    hexValue?_upperHexDigit _ (show byte.toNat / 16 < 16 by omega),
    hexValue?_upperHexDigit _ (show byte.toNat % 16 < 16 by omega), Option.bind_eq_bind,
    Option.bind_some, value]
  cases percentDecode? rest <;> rfl

theorem percentDecode?_percentEncode (text : String) :
    percentDecode? (percentEncode text).toList = some (bytes text) := by
  rw [percentEncode, String.toList_ofList, percentEncodeChars]
  induction bytes text with
  | nil => rfl
  | cons byte rest ih =>
      rw [List.flatMap_cons]
      split
      · rename_i unreserved
        have plain : Char.ofNat byte.toNat ≠ '%' := ofNat_ne_of_isUnreserved unreserved (by decide)
        rw [List.singleton_append, percentDecode?_plain plain, ih, toNat_ofNat_byte]
        simp
      · rw [percentDecode?_triple, ih]
        rfl

theorem percentEncode_injective : Function.Injective percentEncode := by
  intro first second same
  have decoded := percentDecode?_percentEncode first
  rw [same, percentDecode?_percentEncode second] at decoded
  exact bytes_injective (Option.some.inj decoded).symm

theorem slash_not_mem_percentEncode (text : String) : '/' ∉ (percentEncode text).toList := by
  rw [percentEncode, String.toList_ofList, percentEncodeChars, List.mem_flatMap]
  intro found
  obtain ⟨byte, -, written⟩ := found
  have small := byte.toNat_lt
  split at written
  · rename_i unreserved
    exact ofNat_ne_of_isUnreserved unreserved (by decide) (List.mem_singleton.mp written).symm
  · have high := upperHexDigit_ne_slash (byte.toNat / 16) (by omega)
    have low := upperHexDigit_ne_slash (byte.toNat % 16) (by omega)
    simp [percentTriple, high.symm, low.symm] at written

end Text

namespace Address

/-- A path without its last segment and the slash in front of it. -/
def dropLastSegment (path : List Char) : List Char :=
  (path.reverse.dropWhile (· != '/')).tail.reverse

theorem length_tail_lt_of_takeWhile {path segment : List Char}
    (taken : path.takeWhile (· != '/') = segment) (nonempty : segment ≠ []) :
    (path.dropWhile (· != '/')).tail.length < path.length := by
  have whole := congrArg List.length (path.takeWhile_append_dropWhile (p := (· != '/')))
  have some := List.length_pos_of_ne_nil nonempty
  rw [List.length_append, taken] at whole
  rw [List.length_tail]
  omega

/-- Moves segments from a path behind what has been kept of it.  A segment of one point is
dropped, and with a segment of two points the last one that has been kept. -/
def removeDots (kept : List Char) : List Char → List Char
  | [] => kept
  | '/' :: path =>
      let segment := path.takeWhile (· != '/')
      let behind := path.dropWhile (· != '/')
      if segment = ['.'] then removeDots kept ('/' :: behind.tail)
      else if segment = ['.', '.'] then removeDots (dropLastSegment kept) ('/' :: behind.tail)
      else removeDots (kept ++ '/' :: segment) behind
  | first :: path =>
      let segment := first :: path.takeWhile (· != '/')
      let behind := path.dropWhile (· != '/')
      if segment = ['.'] ∨ segment = ['.', '.'] then removeDots kept behind.tail
      else removeDots (kept ++ segment) behind
termination_by path => path.length
decreasing_by
  · rename_i point
    simpa using length_tail_lt_of_takeWhile point (by simp)
  · rename_i points
    simpa using length_tail_lt_of_takeWhile points (by simp)
  all_goals
    have shorter := path.length_dropWhile_le (· != '/')
    grind

def removeDotSegments (path : String) : String := String.ofList (removeDots [] path.toList)

/-- A segment that stays where it is. -/
structure Plain (segment : List Char) : Prop where
  undivided : '/' ∉ segment
  notPoint : segment ≠ ['.']
  notPoints : segment ≠ ['.', '.']

section Segments

variable {segment rest : List Char}

theorem ne_slash_of_mem (undivided : '/' ∉ segment) :
    ∀ character ∈ segment, (character != '/') = true :=
  fun _ member => bne_iff_ne.mpr fun isSlash => undivided (isSlash ▸ member)

theorem takeWhile_segment (undivided : '/' ∉ segment) (ends : ∀ first ∈ rest.head?, first = '/') :
    (segment ++ rest).takeWhile (· != '/') = segment :=
  Text.takeWhile_run (ne_slash_of_mem undivided) fun first found => by simp [ends first found]

theorem dropWhile_segment (undivided : '/' ∉ segment) (ends : ∀ first ∈ rest.head?, first = '/') :
    (segment ++ rest).dropWhile (· != '/') = rest :=
  Text.dropWhile_run (ne_slash_of_mem undivided) fun first found => by simp [ends first found]

theorem removeDots_nil (kept : List Char) : removeDots kept [] = kept := by rw [removeDots]

theorem removeDots_plain (plain : Plain segment) (ends : ∀ first ∈ rest.head?, first = '/')
    (kept : List Char) :
    removeDots kept ('/' :: (segment ++ rest)) = removeDots (kept ++ '/' :: segment) rest := by
  rw [removeDots, takeWhile_segment plain.undivided ends, dropWhile_segment plain.undivided ends,
    if_neg plain.notPoint, if_neg plain.notPoints]

theorem removeDots_last (plain : Plain segment) (kept : List Char) :
    removeDots kept ('/' :: segment) = kept ++ '/' :: segment := by
  have moved : removeDots kept ('/' :: (segment ++ [])) = removeDots (kept ++ '/' :: segment) [] :=
    removeDots_plain plain (by simp) kept
  rwa [List.append_nil, removeDots_nil] at moved

theorem removeDots_point (kept : List Char) : removeDots kept ['/', '.'] = kept ++ ['/'] := by
  simp [removeDots]

theorem removeDots_points (kept : List Char) :
    removeDots kept ['/', '.', '.'] = dropLastSegment kept ++ ['/'] := by
  simp [removeDots]

theorem dropLastSegment_append (kept : List Char) (undivided : '/' ∉ segment) :
    dropLastSegment (kept ++ '/' :: segment) = kept := by
  have reversed : (kept ++ '/' :: segment).reverse = segment.reverse ++ '/' :: kept.reverse := by
    simp
  rw [dropLastSegment, reversed, dropWhile_segment (by simpa using undivided) (by simp),
    List.tail_cons, List.reverse_reverse]

end Segments

def ofSegments (segments : List (List Char)) : List Char := segments.flatMap ('/' :: ·)

theorem removeDots_ofSegments {segments : List (List Char)}
    (plain : ∀ segment ∈ segments, Plain segment) {rest : List Char}
    (ends : ∀ first ∈ rest.head?, first = '/') (kept : List Char) :
    removeDots kept (ofSegments segments ++ rest) =
      removeDots (kept ++ ofSegments segments) rest := by
  induction segments generalizing kept with
  | nil => simp [ofSegments]
  | cons segment segments ih =>
      have first := plain segment List.mem_cons_self
      have others := ih fun other member => plain other (List.mem_cons_of_mem _ member)
      -- Behind the segment stands a slash, whether another one follows or the rest.
      have goesOn : ∀ first ∈ (ofSegments segments ++ rest).head?, first = '/' := by
        cases segments with
        | nil => exact ends
        | cons next segments => simp [ofSegments]
      have split : ofSegments (segment :: segments) ++ rest =
          '/' :: (segment ++ (ofSegments segments ++ rest)) := by simp [ofSegments]
      rw [split, removeDots_plain first goesOn, others]
      simp [ofSegments]

end Address

namespace Client

/-- Whether a kind of resources is named by a segment that means itself. -/
structure IsKind (kind : String) : Prop where
  unchanged : Text.percentEncode kind = kind
  plain : Address.Plain kind.toList

def interfaceSegments : Deployment → List (List Char)
  | .cloud => [['r', 'e', 's', 't'], ['a', 'p', 'i'], ['3']]
  | .server => [['r', 'e', 's', 't'], ['a', 'p', 'i'], ['2']]

theorem plain_of_mem_interfaceSegments (deployment : Deployment) :
    ∀ segment ∈ interfaceSegments deployment, Address.Plain segment := by
  cases deployment <;>
    simp only [interfaceSegments, List.forall_mem_cons] <;>
    exact ⟨⟨by decide, by decide, by decide⟩, ⟨by decide, by decide, by decide⟩,
      ⟨by decide, by decide, by decide⟩, by simp⟩

theorem ofSegments_interfaceSegments (deployment : Deployment) :
    Address.ofSegments (interfaceSegments deployment) = (interface deployment).toList := by
  cases deployment <;> decide

variable {deployment : Deployment} {kind key : String}

theorem toList_path (isKind : IsKind kind) :
    (path deployment [kind, key]).toList = (interface deployment).toList ++ '/' ::
      (kind.toList ++ '/' :: (Text.percentEncode key).toList) := by
  simp [path, isKind.unchanged]

theorem removeDots_path (isKind : IsKind kind) :
    Address.removeDots [] (path deployment [kind, key]).toList =
      Address.removeDots ((interface deployment).toList ++ '/' :: kind.toList)
        ('/' :: (Text.percentEncode key).toList) := by
  rw [toList_path isKind, ← ofSegments_interfaceSegments,
    Address.removeDots_ofSegments (plain_of_mem_interfaceSegments deployment) (by simp),
    Address.removeDots_plain isKind.plain (by simp), List.nil_append]

theorem plain_percentEncode (notPoint : key ≠ ".") (notPoints : key ≠ "..") :
    Address.Plain (Text.percentEncode key).toList where
  undivided := Text.slash_not_mem_percentEncode key
  notPoint same := notPoint
    (Text.percentEncode_injective (String.toList_injective (same.trans (by decide))))
  notPoints same := notPoints
    (Text.percentEncode_injective (String.toList_injective (same.trans (by decide))))

theorem removeDotSegments_path (isKind : IsKind kind) (notPoint : key ≠ ".")
    (notPoints : key ≠ "..") :
    Address.removeDotSegments (path deployment [kind, key]) = path deployment [kind, key] := by
  apply String.toList_injective
  rw [Address.removeDotSegments, String.toList_ofList, removeDots_path isKind,
    Address.removeDots_last (plain_percentEncode notPoint notPoints), toList_path isKind,
    List.append_assoc, List.cons_append]

/-- With a point for its key, a path leads to no resource of the kind. -/
theorem removeDotSegments_point (isKind : IsKind kind) :
    Address.removeDotSegments (path deployment [kind, "."]) =
      interface deployment ++ "/" ++ kind ++ "/" := by
  have point : (Text.percentEncode ".").toList = ['.'] := by decide
  apply String.toList_injective
  rw [Address.removeDotSegments, String.toList_ofList, removeDots_path isKind, point,
    Address.removeDots_point]
  simp

/-- With two points for its key, a path leads away from the kind. -/
theorem removeDotSegments_points (isKind : IsKind kind) :
    Address.removeDotSegments (path deployment [kind, ".."]) = interface deployment ++ "/" := by
  have points : (Text.percentEncode "..").toList = ['.', '.'] := by decide
  apply String.toList_injective
  rw [Address.removeDotSegments, String.toList_ofList, removeDots_path isKind, points,
    Address.removeDots_points, Address.dropLastSegment_append _ isKind.plain.undivided]
  simp

/-- Whether a path leads to one resource of a kind once its dot segments are removed. -/
def LeadsTo (deployment : Deployment) (kind path : String) : Prop :=
  ∃ segment : String,
    Address.removeDotSegments path = interface deployment ++ "/" ++ kind ++ "/" ++ segment ∧
      segment ≠ "" ∧ Address.Plain segment.toList

theorem leadsTo_path_iff (isKind : IsKind kind) (nonempty : key ≠ "") :
    LeadsTo deployment kind (path deployment [kind, key]) ↔ key ≠ "." ∧ key ≠ ".." := by
  constructor
  · intro leads
    obtain ⟨segment, removed, some, plain⟩ := leads
    constructor
    · intro isPoint
      rw [isPoint, removeDotSegments_point isKind] at removed
      have lengths := congrArg String.length removed
      exact some (by simpa using lengths)
    · intro isPoints
      rw [isPoints, removeDotSegments_points isKind] at removed
      have lengths := congrArg String.length removed
      simp only [String.length_append] at lengths
      have slash : "/".length = 1 := rfl
      omega
  · intro others
    obtain ⟨notPoint, notPoints⟩ := others
    refine ⟨Text.percentEncode key, ?_, ?_, plain_percentEncode notPoint notPoints⟩
    · rw [removeDotSegments_path isKind notPoint notPoints]
      simp [path, isKind.unchanged, String.append_assoc]
    · exact fun empty => nonempty (Text.percentEncode_injective (empty.trans (by decide)))

/-- The request of a task that names what it fetches by a key, and of which kind that is. -/
inductive Fetches (client : Client) : Task → (kind key : String) → Request → Prop
  | issue (key : String) (selection : Selection) :
      Fetches client (.get key selection) "issue" key
        (client.issueRequest key selection.serviceFields)
  | project (key : String) (board : Option UInt64) :
      Fetches client (.summary (some key) board) "project" key (client.projectRequest key)

/-- Whether a task begins with a request. -/
def BeginsWith (client : Client) (request : Request) (task : Task) : Prop :=
  ∃ (call : Call) (next : call.Answer → Plan Value) (decode : Json.Source → Option call.Answer),
    task.plan = .ask call next ∧
      ∀ {m : Type → Type} [Monad m] (arithmetic : Arithmetic) (transport : Transport m)
        (pages : Nat), client.answer arithmetic transport pages call =
          .lift (Exchange.fetch transport request decode)

theorem beginsWith_of_fetches {client : Client} {task : Task} {request : Request}
    (fetches : client.Fetches task kind key request) : client.BeginsWith request task := by
  cases fetches with
  | issue key selection =>
      exact ⟨.issue key _, _, Issue.ofSource?, rfl, fun arithmetic transport pages => rfl⟩
  | project key board =>
      exact ⟨.project key, _, Project.ofSource?, rfl, fun arithmetic transport pages => rfl⟩

end Client

namespace Statement

variable {statement : Statement} {scope : Scope} {task : Task} {client : Client} {kind key : String}
  {request : Request}

theorem exists_nonblank_of_projectIn? (chosen : statement.projectIn? scope = some key) :
    ∃ text, Text.nonblank? text = some key := by
  simp only [projectIn?, project?, Scope.project?, Option.or_eq_some_iff,
    Option.bind_eq_some_iff] at chosen
  grind

theorem key_ne_empty (accepted : statement.task scope = .ok task)
    (fetches : client.Fetches task kind key request) : key ≠ "" := by
  obtain ⟨text, present⟩ : ∃ text, Text.nonblank? text = some key := by
    obtain ⟨operation, selection, -, -, accepts⟩ := task_eq_ok_iff.mp accepted
    cases fetches with
    | issue =>
        cases accepts with
        | get unnamed only present => exact ⟨_, present⟩
    | project =>
        -- The project is what the statement comes to, which only a variable can be matched with.
        generalize chosen : some key = project at accepts
        cases accepts with
        | summary =>
            rw [← chosen]
            exact exists_nonblank_of_projectIn? chosen.symm
  exact (Text.nonblank?_eq_some_iff.mp present).1.nonempty

/-- A task that fetches a resource by its key asks for nothing else, unless the key is a point or
two points: then it asks for all resources of the kind, or for the interface itself. -/
theorem key_leads_to_its_resource (accepted : statement.task scope = .ok task)
    (fetches : client.Fetches task kind key request) :
    client.BeginsWith request task ∧
      (Client.LeadsTo client.deployment kind request.path ↔ key ≠ "." ∧ key ≠ "..") ∧
      (key = "." → Address.removeDotSegments request.path =
        Client.interface client.deployment ++ "/" ++ kind ++ "/") ∧
      (key = ".." → Address.removeDotSegments request.path =
        Client.interface client.deployment ++ "/") := by
  have nonempty := key_ne_empty accepted fetches
  obtain ⟨isKind, sent⟩ : Client.IsKind kind ∧
      request.path = Client.path client.deployment [kind, key] := by
    cases fetches with
    | issue => exact ⟨⟨by decide, by decide, by decide, by decide⟩, rfl⟩
    | project => exact ⟨⟨by decide, by decide, by decide, by decide⟩, rfl⟩
  rw [sent]
  refine ⟨Client.beginsWith_of_fetches fetches, Client.leadsTo_path_iff isKind nonempty, ?_, ?_⟩
  · intro isPoint
    rw [isPoint, Client.removeDotSegments_point isKind]
  · intro isPoints
    rw [isPoints, Client.removeDotSegments_points isKind]

def cloudClient : Client := ⟨"https://a", "Bearer t", .cloud, 30⟩

def getOfKey (key : String) : Statement := ⟨"get", [⟨none, key⟩], none⟩

def summaryOfKey (key : String) : Statement := ⟨"summary", [⟨none, key⟩], none⟩

/-- A key that reads like a way to another resource leads to its own. -/
theorem slashes_lead_nowhere_else : ∃ selection,
    (getOfKey "../../2/myself").task {} = .ok (.get "../../2/myself" selection) ∧
      Client.LeadsTo .cloud "issue"
        (cloudClient.issueRequest "../../2/myself" selection.serviceFields).path := by
  obtain ⟨selection, accepted⟩ : ∃ selection,
      (getOfKey "../../2/myself").task {} = .ok (.get "../../2/myself" selection) := ⟨_, rfl⟩
  have fetches : cloudClient.Fetches _ _ _ _ := .issue "../../2/myself" selection
  have leads := (key_leads_to_its_resource accepted fetches).2.1
  exact ⟨selection, accepted, leads.mpr ⟨by decide, by decide⟩⟩

/-- Two points are accepted as the key of an issue, and one as that of a project. -/
theorem points_lead_away :
    Query.parse "get(..)" = .ok ⟨[getOfKey ".."]⟩ ∧
      (∃ selection, (getOfKey "..").task {} = .ok (.get ".." selection) ∧
        Address.removeDotSegments (cloudClient.issueRequest ".." selection.serviceFields).path =
          "/rest/api/3/" ∧
        ¬ Client.LeadsTo .cloud "issue"
          (cloudClient.issueRequest ".." selection.serviceFields).path) ∧
      Query.parse "summary(.)" = .ok ⟨[summaryOfKey "."]⟩ ∧
      (summaryOfKey ".").task {} = .ok (.summary (some ".") none) ∧
      Address.removeDotSegments (cloudClient.projectRequest ".").path = "/rest/api/3/project/" ∧
      ¬ Client.LeadsTo .cloud "project" (cloudClient.projectRequest ".").path := by
  have ofIssues : Client.IsKind "issue" := ⟨by decide, by decide, by decide, by decide⟩
  have ofProjects : Client.IsKind "project" := ⟨by decide, by decide, by decide, by decide⟩
  refine ⟨by decide +kernel, ⟨_, rfl, ?_, ?_⟩, by decide +kernel, rfl, ?_, ?_⟩
  · exact Client.removeDotSegments_points ofIssues
  · intro leads
    exact ((Client.leadsTo_path_iff ofIssues (by decide)).mp leads).2 rfl
  · exact Client.removeDotSegments_point ofProjects
  · intro leads
    exact ((Client.leadsTo_path_iff ofProjects (by decide)).mp leads).1 rfl

end Statement

end IssueQuery
