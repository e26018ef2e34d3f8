namespace IssueQuery

/-! Outcomes of computations that can fail. -/

variable {Failure First Second : Type} {first : Except Failure First}

theorem bind_eq_ok_iff {next : First → Except Failure Second} {result : Second} :
    first >>= next = .ok result ↔ ∃ value, first = .ok value ∧ next value = .ok result := by
  cases first <;> simp [bind, Except.bind]

theorem map_eq_ok_iff {transform : First → Second} {result : Second} :
    first.map transform = .ok result ↔ ∃ value, first = .ok value ∧ transform value = result := by
  cases first <;> simp [Except.map]

theorem bind_eq_error_iff {next : First → Except Failure Second} {failure : Failure} :
    first >>= next = .error failure ↔
      first = .error failure ∨ ∃ value, first = .ok value ∧ next value = .error failure := by
  cases first <;> simp [bind, Except.bind]

theorem map_eq_error_iff {transform : First → Second} {failure : Failure} :
    first.map transform = .error failure ↔ first = .error failure := by
  cases first <;> simp [Except.map]

end IssueQuery
