import IssueQuery.Field.Basic
import Mathlib.Data.List.Induction

namespace IssueQuery

/-! Lists without repetitions. -/

section EraseDups

variable {α β : Type} [BEq α] [LawfulBEq α] [BEq β] [LawfulBEq β]

theorem eraseDups_map_of_injective {transform : α → β}
    (injective : Function.Injective transform) (values : List α) :
    (values.map transform).eraseDups = values.eraseDups.map transform := by
  match values with
  | [] => rfl
  | value :: rest =>
      have different : (fun other => !other == transform value) ∘ transform =
          fun other => !other == value := by
        funext other
        rw [Function.comp_apply, Bool.eq_iff_iff]
        simp [injective.eq_iff]
      simp only [List.map_cons, List.eraseDups_cons, List.filter_map, different]
      rw [eraseDups_map_of_injective injective]
termination_by values.length
decreasing_by
  have := List.length_filter_le (fun other => !other == value) rest
  simp only [List.length_cons]
  omega

theorem eraseDups_of_nodup {values : List α} (distinct : values.Nodup) :
    values.eraseDups = values := by
  induction values with
  | nil => rfl
  | cons value rest ih =>
      obtain ⟨fresh, restDistinct⟩ := List.nodup_cons.mp distinct
      have kept : rest.filter (fun other => !other == value) = rest := by
        refine List.filter_eq_self.mpr fun other member => ?_
        have different : other ≠ value := fun same => fresh (same ▸ member)
        simpa using different
      rw [List.eraseDups_cons, kept, ih restDistinct]

theorem nodup_eraseDups (values : List α) : values.eraseDups.Nodup := by
  match values with
  | [] => exact List.nodup_nil
  | value :: rest =>
      rw [List.eraseDups_cons, List.nodup_cons]
      exact ⟨by simp, nodup_eraseDups _⟩
termination_by values.length
decreasing_by
  have := List.length_filter_le (fun other => !other == value) rest
  simp only [List.length_cons]
  omega

/-- Collecting what was not seen before removes repetitions. -/
theorem foldl_fresh_eq_eraseDups (values : List α) :
    values.foldl (fun seen value => if seen.contains value then seen else seen ++ [value]) [] =
      values.eraseDups := by
  induction values using List.reverseRecOn with
  | nil => rfl
  | append_singleton values value ih =>
      rw [List.foldl_append, ih, List.eraseDups_append]
      by_cases repeated : value ∈ values <;> simp [List.removeAll, List.eraseDups_cons, repeated]

end EraseDups

theorem Field.distinct_eq_eraseDups (fields : List Field) :
    Field.distinct fields = fields.eraseDups :=
  foldl_fresh_eq_eraseDups fields

@[simp] theorem Field.mem_distinct {fields : List Field} {field : Field} :
    field ∈ Field.distinct fields ↔ field ∈ fields := by
  rw [distinct_eq_eraseDups, List.mem_eraseDups]

theorem Field.mem_serviceNames {fields : List Field} {name : String} :
    name ∈ Field.serviceNames fields ↔ ∃ field ∈ fields, field.serviceName? = some name := by
  rw [serviceNames, foldl_fresh_eq_eraseDups, List.mem_eraseDups, List.mem_filterMap]

end IssueQuery
