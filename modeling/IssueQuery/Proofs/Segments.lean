import IssueQuery.Proofs.Endpoints

namespace IssueQuery

/-! Paths read back.

An encoded segment has no slash in it, so the slashes of a path stand between its segments,
and each of them can be decoded again.  Paths are therefore as different as the segments that
they are made of.
-/

namespace Text

def isSegmentChar (character : Char) : Bool :=
  character.isAlphanum || ['-', '_', '.', '~'].contains character

def isUpperHexDigit (character : Char) : Bool :=
  character.isDigit || ('A' ≤ character && character ≤ 'F')

/-- Texts of characters that mean themselves in an address, and of percent triples. -/
inductive PercentEncoded : List Char → Prop
  | nil : PercentEncoded []
  | char {character : Char} {rest : List Char} (plain : isSegmentChar character = true)
      (behind : PercentEncoded rest) : PercentEncoded (character :: rest)
  | triple {high low : Char} {rest : List Char} (isHigh : isUpperHexDigit high = true)
      (isLow : isUpperHexDigit low = true) (behind : PercentEncoded rest) :
      PercentEncoded ('%' :: high :: low :: rest)

theorem isUpperHexDigit_upperHexDigit :
    ∀ value < 16, isUpperHexDigit (upperHexDigit value) = true := by decide

theorem isAlphanum_of_isUpperHexDigit {digit : Char} (isHex : isUpperHexDigit digit = true) :
    digit.isAlphanum = true := by
  delta Char.isAlphanum Char.isAlpha Char.isUpper
  simp only [isUpperHexDigit, Bool.or_eq_true, Bool.and_eq_true, decide_eq_true_eq,
    Char.le_def, UInt32.le_iff_toNat_le] at isHex ⊢
  rcases isHex with isDigit | ⟨least, greatest⟩
  · exact .inr isDigit
  · refine .inl (.inl ⟨least, greatest.trans ?_⟩)
    decide

theorem isSegmentChar_of_isUpperHexDigit {digit : Char} (isHex : isUpperHexDigit digit = true) :
    isSegmentChar digit = true :=
  Bool.or_eq_true_iff.mpr (.inl (isAlphanum_of_isUpperHexDigit isHex))

theorem isSegmentChar_of_isUnreserved {byte : UInt8} (unreserved : isUnreserved byte = true) :
    isSegmentChar (Char.ofNat byte.toNat) = true := by
  simp only [isUnreserved, Bool.and_eq_true] at unreserved
  exact unreserved.2

theorem percentEncoded_percentEncode (text : String) :
    PercentEncoded (percentEncode text).toList := by
  rw [percentEncode, String.toList_ofList, percentEncodeChars]
  induction bytes text with
  | nil => exact .nil
  | cons byte rest ih =>
      rw [List.flatMap_cons]
      split
      · rename_i unreserved
        exact .char (isSegmentChar_of_isUnreserved unreserved) ih
      · have small := byte.toNat_lt
        exact .triple (isUpperHexDigit_upperHexDigit _ (by omega))
          (isUpperHexDigit_upperHexDigit _ (by omega)) ih

theorem PercentEncoded.char_of_mem {part : List Char} (encoded : PercentEncoded part)
    {character : Char} (member : character ∈ part) :
    isSegmentChar character = true ∨ character = '%' := by
  induction encoded with
  | nil => cases member
  | char plain behind ih =>
      rcases List.mem_cons.mp member with rfl | later
      · exact .inl plain
      · exact ih later
  | triple isHigh isLow behind ih =>
      simp only [List.mem_cons] at member
      rcases member with rfl | rfl | rfl | later
      · exact .inr rfl
      · exact .inl (isSegmentChar_of_isUpperHexDigit isHigh)
      · exact .inl (isSegmentChar_of_isUpperHexDigit isLow)
      · exact ih later

/-- The text whose UTF-8 form is written as characters and percent triples. -/
def decodeSegment? (part : List Char) : Option String :=
  (percentDecode? part).bind fun bytes => String.fromUTF8? bytes.toByteArray

theorem toByteArray_bytes (text : String) : (bytes text).toByteArray = text.toByteArray := by
  obtain ⟨characters, rfl⟩ := text.exists_eq_ofList
  rw [bytes, String.toList_ofList, String.toByteArray_ofList, List.utf8Encode]

theorem decodeSegment?_percentEncode (text : String) :
    decodeSegment? (percentEncode text).toList = some text := by
  rw [decodeSegment?, percentDecode?_percentEncode, Option.bind_some, toByteArray_bytes]
  exact dif_pos text.isValidUTF8

end Text

namespace Client

variable {deployment : Deployment} {segments : List String}

def encodedSegments (segments : List String) : List (List Char) :=
  segments.map fun segment => (Text.percentEncode segment).toList

theorem toList_path_eq (deployment : Deployment) (segments : List String) :
    (path deployment segments).toList =
      (interface deployment).toList ++ '/' :: ['/'].intercalate (encodedSegments segments) := by
  simp [path, encodedSegments, String.toList_intercalate, Function.comp_def]

theorem splitOn_encodedSegments (some : segments ≠ []) :
    (['/'].intercalate (encodedSegments segments)).splitOn '/' = encodedSegments segments := by
  refine List.splitOn_intercalate '/' ?_ (by simpa [encodedSegments] using some)
  intro part member
  obtain ⟨segment, -, rfl⟩ := List.mem_map.mp member
  exact Text.slash_not_mem_percentEncode segment

theorem encodedSegments_injective : Function.Injective encodedSegments := by
  refine List.map_injective_iff.mpr fun first second same => ?_
  exact Text.percentEncode_injective (String.toList_injective same)

theorem mapM_decodeSegment? (segments : List String) :
    (encodedSegments segments).mapM Text.decodeSegment? = some segments := by
  induction segments with
  | nil => rfl
  | cons segment rest ih =>
      have first := Text.decodeSegment?_percentEncode segment
      rw [encodedSegments, List.map_cons, List.mapM_cons, first]
      rw [encodedSegments] at ih
      rw [ih]
      rfl

theorem path_injective {first second : List String} (firstSome : first ≠ [])
    (secondSome : second ≠ []) (same : path deployment first = path deployment second) :
    first = second := by
  have characters := congrArg String.toList same
  rw [toList_path_eq, toList_path_eq] at characters
  have behind := (List.cons.inj (List.append_cancel_left characters)).2
  have parts := congrArg (List.splitOn '/') behind
  rw [splitOn_encodedSegments firstSome, splitOn_encodedSegments secondSome] at parts
  exact encodedSegments_injective parts

theorem ofSegments_eq {parts : List (List Char)} (some : parts ≠ []) :
    Address.ofSegments parts = '/' :: ['/'].intercalate parts := by
  induction parts with
  | nil => exact absurd rfl some
  | cons part others ih =>
      cases others with
      | nil => simp [Address.ofSegments]
      | cons next rest =>
          have behind := ih (List.cons_ne_nil next rest)
          rw [Address.ofSegments, List.flatMap_cons]
          rw [Address.ofSegments] at behind
          rw [behind, List.intercalate_cons_cons]
          simp

/-- Only slashes and encoded segments stand in a path. -/
theorem not_mem_path {character : Char} (reserved : Text.isSegmentChar character = false)
    (notTriple : character ≠ '%') (notSlash : character ≠ '/') (some : segments ≠ []) :
    character ∉ (path deployment segments).toList := by
  rw [toList_path_eq, ← ofSegments_eq (by simpa [encodedSegments] using some), List.mem_append]
  intro member
  rcases member with inFront | behind
  · have plain : (interface deployment).toList.all (fun other =>
        Text.isSegmentChar other || other == '/') = true := by
      cases deployment <;> decide
    have kept := List.all_eq_true.mp plain character inFront
    simp [reserved, notSlash] at kept
  · obtain ⟨part, listed, within⟩ := List.mem_flatMap.mp behind
    obtain ⟨segment, -, rfl⟩ := List.mem_map.mp listed
    rcases List.mem_cons.mp within with isSlash | inside
    · exact notSlash isSlash
    · rcases (Text.percentEncoded_percentEncode segment).char_of_mem inside with plain | isMark
      · rw [reserved] at plain
        cases plain
      · exact notTriple isMark

/-- Whether characters are as many encoded parts with slashes between them as there are segments,
each of which decodes to its segment. -/
structure SpellsSegments (characters : List Char) (segments : List String) : Prop where
  length_eq : (characters.splitOn '/').length = segments.length
  encoded : ∀ part ∈ characters.splitOn '/', Text.PercentEncoded part
  decoded : (characters.splitOn '/').mapM Text.decodeSegment? = some segments

theorem spellsSegments_encodedSegments (some : segments ≠ []) :
    SpellsSegments (['/'].intercalate (encodedSegments segments)) segments := by
  have split := splitOn_encodedSegments some
  refine ⟨?_, ?_, ?_⟩
  · rw [split]
    exact List.length_map _
  · rw [split]
    intro part member
    obtain ⟨segment, -, rfl⟩ := List.mem_map.mp member
    exact Text.percentEncoded_percentEncode segment
  · rw [split]
    exact mapM_decodeSegment? segments

/-- Whether the path of segments tells them: it spells them behind the interface, nothing in it
begins a query or a fragment, and other segments have another path. -/
structure PathTells (deployment : Deployment) (segments : List String) : Prop where
  spelled : ∃ behind : List Char,
    (path deployment segments).toList = (interface deployment).toList ++ '/' :: behind ∧
      SpellsSegments behind segments
  noQuery : '?' ∉ (path deployment segments).toList
  noFragment : '#' ∉ (path deployment segments).toList
  unique (others : List String) (othersSome : others ≠ [])
    (same : path deployment others = path deployment segments) : others = segments

/-- Whether requests by key are sent to paths of two segments that differ for each key. -/
structure TellsKeysApart (client : Client) : Prop where
  issuePath (key : String) (fields : List String) :
    (client.issueRequest key fields).path = path client.deployment ["issue", key]
  projectPath (key : String) :
    (client.projectRequest key).path = path client.deployment ["project", key]
  issueKey {key other : String} {fields otherFields : List String}
    (same : (client.issueRequest key fields).path = (client.issueRequest other otherFields).path) :
    key = other
  projectKey {key other : String}
    (same : (client.projectRequest key).path = (client.projectRequest other).path) : key = other
  kinds (key other : String) (fields : List String) :
    (client.issueRequest key fields).path ≠ (client.projectRequest other).path

theorem pathTells (deployment : Deployment) (some : segments ≠ []) :
    PathTells deployment segments where
  spelled := ⟨_, toList_path_eq deployment segments, spellsSegments_encodedSegments some⟩
  noQuery := not_mem_path (by decide) (by decide) (by decide) some
  noFragment := not_mem_path (by decide) (by decide) (by decide) some
  unique _ othersSome same := path_injective othersSome some same

theorem pair_of_path_eq {kind key otherKind other : String}
    (same : path deployment [kind, key] = path deployment [otherKind, other]) :
    kind = otherKind ∧ key = other := by
  simpa using path_injective (List.cons_ne_nil _ _) (List.cons_ne_nil _ _) same

theorem tellsKeysApart (client : Client) : client.TellsKeysApart where
  issuePath _ _ := rfl
  projectPath _ := rfl
  issueKey same := (pair_of_path_eq same).2
  projectKey same := (pair_of_path_eq same).2
  kinds _ _ _ same := absurd (pair_of_path_eq same).1 (by decide)

/-- A path of segments can be read back in one way, and so can the key that a request is sent
for. -/
theorem path_uniquely_decodable :
    (∀ (deployment : Deployment) (segments : List String), segments ≠ [] →
      PathTells deployment segments) ∧
    ∀ client : Client, client.TellsKeysApart :=
  ⟨fun deployment _ some => pathTells deployment some, tellsKeysApart⟩

/-- Segments that read like separators, like triples and like nothing. -/
theorem separators_and_triples_decoded :
    ["a/b?c#d", "", "%2F", "é ~"] ≠ [] ∧
      path .server ["a/b?c#d", "", "%2F", "é ~"] =
        "/rest/api/2/a%2Fb%3Fc%23d//%252F/%C3%A9%20~" ∧
      ("a%2Fb%3Fc%23d//%252F/%C3%A9%20~".toList.splitOn '/').mapM Text.decodeSegment? =
        some ["a/b?c#d", "", "%2F", "é ~"] ∧
      path .server ["a", "b?c#d", "", "%2F", "é ~"] ≠
        path .server ["a/b?c#d", "", "%2F", "é ~"] := by
  have some : ["a/b?c#d", "", "%2F", "é ~"] ≠ [] := by simp
  have written : path .server ["a/b?c#d", "", "%2F", "é ~"] =
      "/rest/api/2/a%2Fb%3Fc%23d//%252F/%C3%A9%20~" := by decide +kernel
  have tells := path_uniquely_decodable.1 .server _ some
  obtain ⟨behind, split, spelled⟩ := tells.spelled
  refine ⟨some, written, ?_, ?_⟩
  · have same : behind = "a%2Fb%3Fc%23d//%252F/%C3%A9%20~".toList := by
      rw [written] at split
      have characters : "/rest/api/2/a%2Fb%3Fc%23d//%252F/%C3%A9%20~".toList =
          (interface .server).toList ++ '/' :: "a%2Fb%3Fc%23d//%252F/%C3%A9%20~".toList := by
        decide +kernel
      rw [characters] at split
      exact (List.cons.inj (List.append_cancel_left split)).2.symm
    exact same ▸ spelled.decoded
  · intro same
    have equal := tells.unique _ (by simp) same
    simp at equal

end Client

end IssueQuery
