import IssueQuery.Proofs.Ascending
import IssueQuery.Proofs.Repetition
import IssueQuery.Record.Basic
import Mathlib.Data.Finset.Card

namespace IssueQuery.Record

/-! Records as maps in the order of insertion.

What one insertion does is said once for the names (`keys_insert`) and once for the values
(`get?_insert`).  From both follows what any run of insertions leaves (`collects_ofList`).
-/

theorem names_insertEntry (name : String) (value : Value) (entries : List (String × Value)) :
    (insertEntry name value entries).map (·.1) =
      if name ∈ entries.map (·.1) then entries.map (·.1) else entries.map (·.1) ++ [name] := by
  induction entries with
  | nil => rfl
  | cons entry rest ih =>
      by_cases here : entry.1 = name
      · simp [insertEntry, here]
      · have elsewhere : name ≠ entry.1 := Ne.symm here
        rw [insertEntry, if_neg here, List.map_cons, ih]
        by_cases later : name ∈ rest.map (·.1)
        · simp [later]
        · simp [later, elsewhere]

theorem lookup_insertEntry (name other : String) (value : Value)
    (entries : List (String × Value)) :
    (insertEntry name value entries).lookup other =
      if other = name then some value else entries.lookup other := by
  induction entries with
  | nil => rw [insertEntry, Json.lookup_cons_if]
  | cons entry rest ih =>
      rw [insertEntry]
      split
      · rename_i here
        rw [Json.lookup_cons_if, Json.lookup_cons_if, here]
        split <;> rfl
      · rename_i elsewhere
        rw [Json.lookup_cons_if, Json.lookup_cons_if, ih]
        grind

section Insert

variable (record : Record) (name : String) (value : Value)

/-- A name that is there keeps its place, and a new one comes last. -/
theorem keys_insert :
    (record.insert name value).keys =
      if name ∈ record.keys then record.keys else record.keys ++ [name] :=
  names_insertEntry name value record.entries

theorem get?_insert (other : String) :
    (record.insert name value).get? other =
      if other = name then some value else record.get? other :=
  lookup_insertEntry name other value record.entries

end Insert

theorem ofList_concat (inserted : List (String × Value)) (name : String) (value : Value) :
    ofList (inserted ++ [(name, value)]) = (ofList inserted).insert name value := by
  rw [ofList, insertMany, List.foldl_append]
  rfl

theorem keys_ofList (inserted : List (String × Value)) :
    (ofList inserted).keys = (inserted.map (·.1)).eraseDups := by
  induction inserted using List.reverseRecOn with
  | nil => rfl
  | append_singleton inserted last ih =>
      rw [ofList_concat, keys_insert, ih, List.map_append, List.eraseDups_append]
      by_cases repeated : last.1 ∈ inserted.map (·.1)
      · simp [List.removeAll, repeated]
      · simp [List.removeAll, List.eraseDups_cons, repeated]

theorem get?_ofList (inserted : List (String × Value)) (name : String) :
    (ofList inserted).get? name = inserted.reverse.lookup name := by
  induction inserted using List.reverseRecOn with
  | nil => rfl
  | append_singleton inserted last ih =>
      rw [ofList_concat, get?_insert, ih, List.reverse_append, List.reverse_singleton,
        List.singleton_append, Json.lookup_cons_if]

theorem nodup_keys_ofList (inserted : List (String × Value)) : (ofList inserted).keys.Nodup := by
  rw [keys_ofList]
  exact nodup_eraseDups _

theorem get?_ofList_eq_some_iff {inserted : List (String × Value)} {name : String}
    {value : Value} :
    (ofList inserted).get? name = some value ↔
      ∃ earlier later, inserted = earlier ++ (name, value) :: later ∧
        name ∉ later.map (·.1) := by
  rw [get?_ofList, List.lookup_eq_some_iff]
  constructor
  · rintro ⟨behind, front, split, fresh⟩
    refine ⟨front.reverse, behind.reverse, ?_, fun member => ?_⟩
    · rw [List.reverse_eq_iff.mp split, List.reverse_append, List.reverse_cons, List.append_assoc,
        List.singleton_append]
    · obtain ⟨entry, listed, rfl⟩ := List.mem_map.mp member
      simpa using fresh entry (List.mem_reverse.mp listed)
  · rintro ⟨earlier, later, rfl, fresh⟩
    refine ⟨later.reverse, earlier.reverse, ?_, fun entry listed => ?_⟩
    · rw [List.reverse_append, List.reverse_cons, List.append_assoc, List.singleton_append]
    · refine bne_iff_ne.mpr ?_
      rintro rfl
      exact fresh (List.mem_map_of_mem (List.mem_reverse.mp listed))

theorem contains_iff {record : Record} {name : String} :
    record.contains name = true ↔ name ∈ record.keys := by
  rw [contains, get?, Option.isSome_iff_ne_none, ne_eq, List.lookup_eq_none_iff, keys]
  simp

/-- Whether a record is the map that entries inserted one after the other make up, in the order
in which their names were first inserted. -/
structure Collects (record : Record) (inserted : List (String × Value)) : Prop where
  distinct : record.keys.Nodup
  keys_eq : record.keys = (inserted.map (·.1)).eraseDups
  get?_iff : ∀ name value, record.get? name = some value ↔
    ∃ earlier later, inserted = earlier ++ (name, value) :: later ∧ name ∉ later.map (·.1)
  contains_iff : ∀ name, record.contains name = true ↔ name ∈ inserted.map (·.1)
  size_eq : record.size = (inserted.map (·.1)).toFinset.card

theorem collects_ofList (inserted : List (String × Value)) :
    (ofList inserted).Collects inserted where
  distinct := nodup_keys_ofList inserted
  keys_eq := keys_ofList inserted
  get?_iff _ _ := get?_ofList_eq_some_iff
  contains_iff name := by rw [contains_iff, keys_ofList, List.mem_eraseDups]
  size_eq := by
    have sameNames : (inserted.map (·.1)).toFinset = (ofList inserted).keys.toFinset := by
      ext name
      rw [List.mem_toFinset, List.mem_toFinset, keys_ofList, List.mem_eraseDups]
    rw [sameNames, List.toFinset_card_of_nodup (nodup_keys_ofList inserted), keys, List.length_map,
      size]

/-- What stands in a record was inserted. -/
theorem mem_of_mem_ofList {inserted : List (String × Value)} {entry : String × Value}
    (member : entry ∈ (ofList inserted).entries) : entry ∈ inserted := by
  have found := (Json.mem_iff_lookup (nodup_keys_ofList inserted)).mp member
  obtain ⟨earlier, later, rfl, -⟩ := get?_ofList_eq_some_iff.mp found
  exact List.mem_append_right _ List.mem_cons_self

theorem insertEntry_of_fresh {name : String} {entries : List (String × Value)}
    (fresh : name ∉ entries.map (·.1)) (value : Value) :
    insertEntry name value entries = entries ++ [(name, value)] := by
  induction entries with
  | nil => rfl
  | cons entry rest ih =>
      rw [List.map_cons, List.mem_cons, not_or] at fresh
      rw [insertEntry, if_neg (Ne.symm fresh.1), ih fresh.2, List.cons_append]

theorem entries_ofList {entries : List (String × Value)} (distinct : (entries.map (·.1)).Nodup) :
    (ofList entries).entries = entries := by
  induction entries using List.reverseRecOn with
  | nil => rfl
  | append_singleton earlier last ih =>
      rw [List.map_append, List.nodup_append] at distinct
      obtain ⟨earlierDistinct, -, apart⟩ := distinct
      have fresh : last.1 ∉ earlier.map (·.1) := fun member =>
        apart _ member _ (List.mem_singleton_self _) rfl
      rw [ofList_concat, insert, ih earlierDistinct]
      exact insertEntry_of_fresh fresh last.2

end IssueQuery.Record
