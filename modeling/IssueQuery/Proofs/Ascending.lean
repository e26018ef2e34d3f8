import IssueQuery.Json.Decode
import Mathlib.Data.String.Basic

namespace IssueQuery.Json

/-! Members in ascending order of names. -/

variable {α : Type} {name : String} {value : α} {members : List (String × α)}

/-- Every name is smaller than those behind it, so that none stands twice. -/
def Ascending (members : List (String × α)) : Prop :=
  members.Pairwise fun first second => first.1 < second.1

theorem mem_insertSorted {entry : String × α} (member : entry ∈ insertSorted name value members) :
    entry = (name, value) ∨ entry ∈ members := by
  induction members with
  | nil => exact .inl (List.mem_singleton.mp member)
  | cons head rest ih =>
      simp only [insertSorted] at member
      split at member
      · exact List.mem_cons.mp member
      · split at member
        · rcases List.mem_cons.mp member with same | later
          · exact .inl same
          · exact .inr (List.mem_cons_of_mem _ later)
        · rcases List.mem_cons.mp member with rfl | later
          · exact .inr List.mem_cons_self
          · exact (ih later).imp id (List.mem_cons_of_mem _)

theorem mem_of_mem_sortMembers {entry : String × α} (member : entry ∈ sortMembers members) :
    entry ∈ members := by
  have general : ∀ sorted : List (String × α),
      entry ∈ members.foldl (fun sorted member => insertSorted member.1 member.2 sorted) sorted →
        entry ∈ sorted ∨ entry ∈ members := by
    clear member
    induction members with
    | nil => exact fun sorted member => .inl member
    | cons head rest ih =>
        intro sorted member
        rcases ih _ member with early | late
        · rcases mem_insertSorted early with rfl | before
          · exact .inr List.mem_cons_self
          · exact .inl before
        · exact .inr (List.mem_cons_of_mem _ late)
  exact (general [] member).resolve_left List.not_mem_nil

theorem Ascending.insertSorted (ascending : Ascending members) :
    Ascending (insertSorted name value members) := by
  induction members with
  | nil => exact List.pairwise_singleton _ _
  | cons head rest ih =>
      obtain ⟨below, restAscending⟩ := List.pairwise_cons.mp ascending
      simp only [Json.insertSorted]
      split
      · rename_i smaller
        refine List.pairwise_cons.mpr ⟨fun entry member => ?_, ascending⟩
        rcases List.mem_cons.mp member with rfl | later
        · exact smaller
        · exact smaller.trans (below entry later)
      · rename_i notSmaller
        split
        · rename_i same
          subst same
          exact List.pairwise_cons.mpr ⟨below, restAscending⟩
        · rename_i different
          have greater : head.1 < name := lt_of_le_of_ne (not_lt.mp notSmaller) (Ne.symm different)
          refine List.pairwise_cons.mpr ⟨fun entry member => ?_, ih restAscending⟩
          rcases mem_insertSorted member with rfl | later
          · exact greater
          · exact below entry later

theorem ascending_sortMembers (members : List (String × α)) : Ascending (sortMembers members) := by
  have general : ∀ sorted : List (String × α), Ascending sorted →
      Ascending (members.foldl (fun sorted member => Json.insertSorted member.1 member.2 sorted)
        sorted) := by
    induction members with
    | nil => exact fun sorted ascending => ascending
    | cons member rest ih => exact fun sorted ascending => ih _ ascending.insertSorted
  exact general [] .nil

theorem Ascending.nodup (ascending : Ascending members) : (members.map (·.1)).Nodup := by
  rw [List.Nodup, List.pairwise_map]
  exact ascending.imp fun smaller => smaller.ne

/-- Of members with distinct names, only one arrangement is ascending. -/
theorem Ascending.eq_of_perm {others : List (String × α)} (ascending : Ascending members)
    (alsoAscending : Ascending others) (permuted : members.Perm others) : members = others := by
  refine permuted.eq_of_pairwise ?_ ascending alsoAscending
  intro first second _ _ forth back
  exact absurd back (lt_asymm forth)

theorem perm_insertSorted (fresh : name ∉ members.map (·.1)) :
    (insertSorted name value members).Perm ((name, value) :: members) := by
  induction members with
  | nil => exact .refl _
  | cons head rest ih =>
      rw [List.map_cons, List.mem_cons, not_or] at fresh
      simp only [insertSorted, if_neg fresh.1]
      split
      · exact .refl _
      · exact ((ih fresh.2).cons head).trans (.swap _ _ _)

/-- Members with distinct names are only put in order. -/
theorem perm_sortMembers (distinct : (members.map (·.1)).Nodup) :
    (sortMembers members).Perm members := by
  have general : ∀ sorted : List (String × α), ((sorted ++ members).map (·.1)).Nodup →
      (members.foldl (fun sorted member => insertSorted member.1 member.2 sorted) sorted).Perm
        (sorted ++ members) := by
    clear distinct
    induction members with
    | nil => simp
    | cons member rest ih =>
        intro sorted distinct
        have moved : (sorted ++ member :: rest).Perm (member :: (sorted ++ rest)) :=
          List.perm_middle
        have fresh : member.1 ∉ sorted.map (·.1) := by
          have names := (moved.map (·.1)).nodup_iff.mp distinct
          rw [List.map_cons, List.nodup_cons, List.map_append, List.mem_append, not_or] at names
          exact names.1.1
        have inserted : (insertSorted member.1 member.2 sorted ++ rest).Perm
            (member :: (sorted ++ rest)) := (perm_insertSorted fresh).append_right rest
        refine (ih _ ?_).trans (inserted.trans moved.symm)
        exact ((inserted.trans moved.symm).map (·.1)).nodup_iff.mpr distinct
  exact general [] distinct

/-- Of members with distinct names, each is found by its own. -/
theorem mem_iff_lookup (distinct : (members.map (·.1)).Nodup) :
    (name, value) ∈ members ↔ members.lookup name = some value := by
  induction members with
  | nil => simp
  | cons head rest ih =>
      obtain ⟨fresh, restDistinct⟩ := List.nodup_cons.mp distinct
      rw [List.mem_cons, lookup_cons_if, ih restDistinct]
      constructor
      · intro member
        rcases member with rfl | found
        · simp
        · have listed : name ∈ rest.map (·.1) :=
            List.mem_map_of_mem ((ih restDistinct).mpr found)
          have different : name ≠ head.1 := by
            rintro rfl
            exact fresh listed
          rw [if_neg different, found]
      · intro found
        split at found
        · rename_i same
          exact .inl (Prod.ext same (Option.some.inj found).symm)
        · exact .inr found

theorem lookup_of_perm {others : List (String × α)} (distinct : (members.map (·.1)).Nodup)
    (permuted : others.Perm members) (name : String) :
    others.lookup name = members.lookup name := by
  have otherDistinct : (others.map (·.1)).Nodup := (permuted.map (·.1)).nodup_iff.mpr distinct
  refine Option.ext fun value => ?_
  rw [← mem_iff_lookup otherDistinct, ← mem_iff_lookup distinct, permuted.mem_iff]

theorem sortMembers_of_ascending (ascending : Ascending members) :
    sortMembers members = members :=
  (ascending_sortMembers members).eq_of_perm ascending (perm_sortMembers ascending.nodup)

section Values

variable {β : Type} (transform : α → β)

theorem insertSorted_map :
    insertSorted name (transform value) (members.map (Prod.map id transform)) =
      (insertSorted name value members).map (Prod.map id transform) := by
  induction members with
  | nil => rfl
  | cons head rest ih =>
      simp only [List.map_cons, insertSorted, ih, Prod.map_fst, id_eq]
      split
      · rfl
      · split <;> rfl

/-- Names alone decide where a member is put. -/
theorem sortMembers_map (members : List (String × α)) :
    sortMembers (members.map (Prod.map id transform)) =
      (sortMembers members).map (Prod.map id transform) := by
  have general : ∀ sorted : List (String × α),
      (members.map (Prod.map id transform)).foldl
          (fun sorted member => insertSorted member.1 member.2 sorted)
          (sorted.map (Prod.map id transform)) =
        (members.foldl (fun sorted member => insertSorted member.1 member.2 sorted) sorted).map
          (Prod.map id transform) := by
    induction members with
    | nil => exact fun _ => rfl
    | cons member rest ih =>
        intro sorted
        rw [List.map_cons, List.foldl_cons, List.foldl_cons, ← ih, ← insertSorted_map]
        rfl
  exact general []

theorem lookup_map (name : String) (members : List (String × α)) :
    (members.map (Prod.map id transform)).lookup name = (members.lookup name).map transform := by
  induction members with
  | nil => rfl
  | cons member rest ih =>
      rw [List.map_cons, lookup_cons_if, lookup_cons_if, ih, Prod.map_fst, id]
      split
      · rfl
      · rfl

end Values

theorem sortedItems_eq_map (items : List Json) : sortedItems items = items.map sorted := by
  induction items with
  | nil => rfl
  | cons item rest ih => rw [sortedItems, ih, List.map_cons]

theorem sortedMembers_eq_map (members : List (String × Json)) :
    sortedMembers members = members.map (Prod.map id sorted) := by
  induction members with
  | nil => rfl
  | cons member rest ih => rw [sortedMembers, ih, List.map_cons, Prod.map, id]

/-- Of an object with distinct names, the sorted form has the same members. -/
theorem lookup_sorted {members : List (String × Json)} (distinct : (members.map (·.1)).Nodup)
    (name : String) :
    (sortMembers (sortedMembers members)).lookup name = (members.lookup name).map sorted := by
  have names : ((members.map (Prod.map id sorted)).map (·.1)).Nodup := by
    rwa [List.map_map]
  rw [sortedMembers_eq_map, lookup_of_perm names (perm_sortMembers names), lookup_map]

theorem Source.ascending_of_map? {decode : Source → Option α} {source : Source}
    (read : map? decode source = some members) : Ascending members := by
  cases source with
  | object entries =>
      obtain ⟨found, -, rfl⟩ := Option.map_eq_some_iff.mp read
      exact ascending_sortMembers found
  | _ => cases read

end IssueQuery.Json
