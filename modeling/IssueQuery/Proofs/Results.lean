import IssueQuery.Proofs.Ascending
import IssueQuery.Proofs.ByteOrder
import IssueQuery.Proofs.Insertion
import IssueQuery.Proofs.Spelling
import IssueQuery.Record.Json

namespace IssueQuery

/-! Results read back.

The text of results holds all that they say: reading it gives the same values, with
the entries of records in ascending order of names.
-/

namespace Value

/-- A value without binary64 numbers, whose whole numbers fit into 64 bits with a sign and
whose records have distinct names. -/
inductive Encodable : Value → Prop
  | null : Encodable .null
  | bool (value : Bool) : Encodable (.bool value)
  | int {value : Int} (lower : -Int.pow 2 63 ≤ value) (upper : value < Int.pow 2 63) :
      Encodable (.int value)
  | text (value : String) : Encodable (.text value)
  | list {items : List Value} (encodable : ∀ item ∈ items, Encodable item) :
      Encodable (.list items)
  | record {entries : List (String × Value)} (distinct : (entries.map (·.1)).Nodup)
      (encodable : ∀ entry ∈ entries, Encodable entry.2) : Encodable (.record entries)

mutual

/-- The same value with the entries of every record in ascending order of the bytes of
their names. -/
def arranged : Value → Value
  | .list items => .list (arrangedItems items)
  | .record entries =>
      .record ((arrangedEntries entries).mergeSort fun first second =>
        decide (Text.bytes first.1 ≤ Text.bytes second.1))
  | .null => .null
  | .bool value => .bool value
  | .int value => .int value
  | .float value => .float value
  | .text value => .text value

def arrangedItems : List Value → List Value
  | [] => []
  | item :: rest => item.arranged :: arrangedItems rest

def arrangedEntries : List (String × Value) → List (String × Value)
  | [] => []
  | (name, value) :: rest => (name, value.arranged) :: arrangedEntries rest

end

theorem itemsToJson_eq_map (items : List Value) : itemsToJson items = items.map toJson := by
  induction items with
  | nil => rfl
  | cons item rest ih => rw [itemsToJson, ih, List.map_cons]

theorem entriesToJson_eq_map (entries : List (String × Value)) :
    entriesToJson entries = entries.map (Prod.map id toJson) := by
  induction entries with
  | nil => rfl
  | cons entry rest ih => rw [entriesToJson, ih, List.map_cons, Prod.map, id]

theorem ofItems_eq_map (items : List Json) : ofItems items = items.map ofJson := by
  induction items with
  | nil => rfl
  | cons item rest ih => rw [ofItems, ih, List.map_cons]

theorem ofMembers_eq_map (members : List (String × Json)) :
    ofMembers members = members.map (Prod.map id ofJson) := by
  induction members with
  | nil => rfl
  | cons member rest ih => rw [ofMembers, ih, List.map_cons, Prod.map, id]

theorem arrangedItems_eq_map (items : List Value) : arrangedItems items = items.map arranged := by
  induction items with
  | nil => rfl
  | cons item rest ih => rw [arrangedItems, ih, List.map_cons]

theorem arrangedEntries_eq_map (entries : List (String × Value)) :
    arrangedEntries entries = entries.map (Prod.map id arranged) := by
  induction entries with
  | nil => rfl
  | cons entry rest ih => rw [arrangedEntries, ih, List.map_cons, Prod.map, id]

theorem Encodable.eachFits {value : Value} (encodable : value.Encodable) :
    value.toJson.EachNumber Json.Number.Fits := by
  induction encodable with
  | null => exact .null
  | bool value => exact .bool value
  | int lower upper =>
      refine .number ⟨lower, ?_⟩
      rw [Text.intPow_two_63] at upper
      rw [Text.intPow_two_64]
      omega
  | text value => exact .string value
  | list _ ih =>
      rw [toJson, itemsToJson_eq_map]
      refine .array ?_
      simpa using ih
  | record _ _ ih =>
      rw [toJson, entriesToJson_eq_map]
      refine .object ?_
      intro member listed
      obtain ⟨entry, given, rfl⟩ := List.mem_map.mp listed
      exact ih entry given

/-- Sorting by bytes arranges entries with distinct names as reading them does. -/
theorem sortMembers_eq_mergeSort {entries : List (String × Value)}
    (distinct : (entries.map (·.1)).Nodup) :
    Json.sortMembers entries =
      entries.mergeSort fun first second =>
        decide (Text.bytes first.1 ≤ Text.bytes second.1) := by
  have permuted := List.mergeSort_perm entries fun first second =>
    decide (Text.bytes first.1 ≤ Text.bytes second.1)
  have sorted : (entries.mergeSort fun first second =>
      decide (Text.bytes first.1 ≤ Text.bytes second.1)).Pairwise fun first second =>
        decide (Text.bytes first.1 ≤ Text.bytes second.1) := by
    apply List.pairwise_mergeSort
    · intro first second third forth further
      simp only [Text.bytes_le_bytes_iff, decide_eq_true_iff] at forth further ⊢
      exact forth.trans further
    · intro first second
      simpa [Text.bytes_le_bytes_iff] using le_total first.1 second.1
  apply Json.Ascending.eq_of_perm (Json.ascending_sortMembers entries)
  · have apart := (permuted.map (·.1)).nodup_iff.mpr distinct
    exact (sorted.and (List.pairwise_map.mp apart)).imp fun ⟨inOrder, different⟩ =>
      lt_of_le_of_ne (Text.bytes_le_bytes_iff.mp (of_decide_eq_true inOrder)) different
  · exact (Json.perm_sortMembers distinct).trans permuted.symm

theorem ofJson_sorted_toJson {value : Value} (encodable : value.Encodable) :
    ofJson value.toJson.sorted = value.arranged := by
  induction encodable with
  | null => rfl
  | bool value => rfl
  | @int value lower upper =>
      have greatest : (greatestInt : Int) = Int.pow 2 63 - 1 := rfl
      exact if_pos (by omega)
  | text value => rfl
  | @list items _ ih =>
      rw [toJson, Json.sorted, ofJson, arranged, ofItems_eq_map, Json.sortedItems_eq_map,
        itemsToJson_eq_map, arrangedItems_eq_map, List.map_map, List.map_map]
      exact congrArg _ (List.map_congr_left ih)
  | @record entries distinct _ ih =>
      have read : ofMembers (Json.sortMembers (Json.sortedMembers (entriesToJson entries))) =
          Json.sortMembers (arrangedEntries entries) := by
        rw [ofMembers_eq_map, ← Json.sortMembers_map, Json.sortedMembers_eq_map,
          entriesToJson_eq_map, arrangedEntries_eq_map, List.map_map, List.map_map]
        refine congrArg _ (List.map_congr_left fun entry member => ?_)
        exact Prod.ext rfl (ih entry member)
      have names : (arrangedEntries entries).map (·.1) = entries.map (·.1) := by
        rw [arrangedEntries_eq_map, List.map_map]
        rfl
      rw [toJson, Json.sorted, ofJson, arranged, read,
        Record.entries_ofList (Json.ascending_sortMembers _).nodup,
        sortMembers_eq_mergeSort (names ▸ distinct)]

/-- What a list of results is as one value. -/
def ofResults : List Value → Value
  | [single] => single
  | results => .list results

theorem renderResults_eq (results : List Value) :
    renderResults results =
      String.ofList (Json.writePretty 0 (ofResults results).toJson ++ ['\n']) := by
  rcases results with _ | ⟨first, _ | ⟨second, rest⟩⟩
  · rfl
  · rfl
  · rfl

theorem Encodable.ofResults {results : List Value}
    (encodable : ∀ result ∈ results, result.Encodable) : (ofResults results).Encodable := by
  rcases results with _ | ⟨first, _ | ⟨second, rest⟩⟩
  · exact .list encodable
  · exact encodable first List.mem_cons_self
  · exact .list encodable

/-- The text of results is the tree of what they are as one value, whose members stand as they
were written. -/
theorem sourceOfText?_renderResults {results : List Value}
    (encodable : ∀ result ∈ results, result.Encodable)
    (shallow : (ofResults results).toJson.depth ≤ 127) :
    Json.Source.ofText? (renderResults results) = some (ofResults results).toJson.toSource := by
  have spelled := (Encodable.ofResults encodable).eachFits.spells_writePretty 0
  have read := Json.Source.ofText?_of_spells spelled shallow Json.blanks_nil
    (by simp [Json.Blanks, Json.Source.isSpace] : Json.Blanks ['\n'])
  rwa [List.nil_append, ← renderResults_eq] at read

/-- Results are written as one value and the end of a line, and read back as what they
are, up to the order of entries. -/
theorem results_read_back (results : List Value)
    (encodable : ∀ result ∈ results, result.Encodable)
    (shallow : (ofResults results).toJson.depth ≤ 127) :
    ∃ text, renderResults results = text ++ "\n" ∧
      Json.Spells (ofResults results).toJson text.toList ∧
      (Json.ofText? text).map ofJson = some (ofResults results).arranged ∧
      (Json.ofText? (renderResults results)).map ofJson = some (ofResults results).arranged := by
  have whole := Encodable.ofResults encodable
  have spelled := whole.eachFits.spells_writePretty 0
  have read (behind : List Char) (blank : Json.Blanks behind) :=
    Json.ofText?_of_spells spelled shallow Json.blanks_nil blank
  refine ⟨String.ofList (Json.writePretty 0 (ofResults results).toJson), ?_, ?_, ?_, ?_⟩
  · rw [renderResults_eq]
    exact String.ofList_append
  · rw [String.toList_ofList]
    exact spelled
  · have alone := read [] Json.blanks_nil
    rw [List.append_nil] at alone
    rw [List.nil_append] at alone
    rw [alone, Option.map_some, ofJson_sorted_toJson whole]
  · have ended := read ['\n'] (by simp [Json.Blanks, Json.Source.isSpace])
    rw [List.nil_append] at ended
    rw [renderResults_eq, ended, Option.map_some, ofJson_sorted_toJson whole]

/-- Two results, the first with its names out of order and with characters that are
written as escapes. -/
def unevenResults : List Value :=
  [.record [("key", .text "A\\\"B\x00\n\u2028"), ("fields", .list [.null, .record []]),
    ("count", .int (-9223372036854775808))], .int 9223372036854775807]

theorem unevenResults_read_back :
    (∀ result ∈ unevenResults, result.Encodable) ∧
      (ofResults unevenResults).toJson.depth ≤ 127 ∧
      ∃ text, renderResults unevenResults = text ++ "\n" ∧
        Json.Spells (ofResults unevenResults).toJson text.toList ∧
        (Json.ofText? text).map ofJson = some (ofResults unevenResults).arranged ∧
        (Json.ofText? (renderResults unevenResults)).map ofJson =
          some (ofResults unevenResults).arranged := by
  have encodable : ∀ result ∈ unevenResults, result.Encodable := by
    have empty : Encodable (.record []) := .record List.nodup_nil (by simp)
    have items : Encodable (.list [.null, .record []]) := .list (by simp [empty, Encodable.null])
    have least : Encodable (.int (-9223372036854775808)) := .int (by decide) (by decide)
    have greatest : Encodable (.int 9223372036854775807) := .int (by decide) (by decide)
    simp only [unevenResults, List.forall_mem_cons]
    refine ⟨.record (by decide) ?_, greatest, by simp⟩
    simp [items, least, Encodable.text]
  have shallow : (ofResults unevenResults).toJson.depth ≤ 127 := by decide
  exact ⟨encodable, shallow, results_read_back unevenResults encodable shallow⟩

end Value

end IssueQuery
