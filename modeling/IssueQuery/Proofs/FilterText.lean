import IssueQuery.Proofs.Acceptance
import IssueQuery.Query.Reader
import Mathlib.Data.List.Infix

namespace IssueQuery

/-! Projects in the text of a filter.

A filter's project stands in its text as it is, and nothing marks where it ends.  So a
project can read like a shorter one with a further clause behind it.  In all other cases
filters with the same text have the same project.
-/

/-- The filter of a task that lists or counts issues. -/
def Task.filter? : Task → Option Filter
  | .list criteria _ _ _ => some criteria.filter
  | .count criteria => some criteria.filter
  | _ => none

def Statement.filter? (scope : Scope) (statement : Statement) : Option Filter :=
  match statement.task scope with
  | .error _ => none
  | .ok task => task.filter?

namespace Filter

/-- What the clauses behind the one on the project start with. -/
def openings : List (List Char) :=
  [(" AND issuetype = " ++ "\"").toList, (" AND status = " ++ "\"").toList]

/-- What stands behind the project. -/
def further (filter : Filter) : List Char :=
  (filter.type.map fun type => (" AND issuetype = " ++ quote type).toList).getD [] ++
    (filter.status.map fun status => (" AND status = " ++ quote status).toList).getD []

/-- Whether a project reads like another one with a clause behind it. -/
def Poses (project other : String) : Prop :=
  ∃ opening ∈ openings, other.toList ++ opening <+: project.toList

theorem text_of_project {filter : Filter} {project : String}
    (given : filter.project = some project) :
    filter.text.toList = "project = ".toList ++ project.toList ++ filter.further := by
  obtain ⟨_, type, status⟩ := filter
  cases given
  cases type <;> cases status <;> simp [text, clauses, further]

theorem prefix_quote (front value : String) :
    (front ++ "\"").toList <+: (front ++ quote value).toList :=
  ⟨value.toList.flatMap escapeChar ++ ['"'], by simp [quote]⟩

theorem further_opens (filter : Filter) :
    filter.further = [] ∨ ∃ opening ∈ openings, opening <+: filter.further := by
  obtain ⟨project, type, status⟩ := filter
  cases type with
  | some type =>
      have opened := prefix_quote " AND issuetype = " type
      have inFront : (" AND issuetype = " ++ quote type).toList <+:
          further ⟨project, some type, status⟩ := List.prefix_append _ _
      exact .inr ⟨_, List.mem_cons_self, opened.trans inFront⟩
  | none =>
      cases status with
      | some status =>
          have opened := prefix_quote " AND status = " status
          have known : (" AND status = " ++ "\"").toList ∈ openings :=
            List.mem_cons_of_mem _ List.mem_cons_self
          have alone : further ⟨project, none, some status⟩ =
              (" AND status = " ++ quote status).toList := List.nil_append _
          rw [← alone] at opened
          exact .inr ⟨_, known, opened⟩
      | none => exact .inl rfl

/-- No opening starts inside of another. -/
theorem not_overlapping {opening other inside : List Char} (known : opening ∈ openings)
    (alsoKnown : other ∈ openings) (suffix : inside <:+ opening) (shorter : inside ≠ opening)
    (nonempty : inside ≠ []) : ¬ inside <+: other ∧ ¬ other <+: inside := by
  have checked : ∀ opening ∈ openings, ∀ other ∈ openings, ∀ inside ∈ opening.tails,
      inside ≠ opening → inside ≠ [] → ¬ inside <+: other ∧ ¬ other <+: inside := by decide
  exact checked opening known other alsoKnown inside ((List.mem_tails _ _).mpr suffix) shorter nonempty

/-- Where the same text goes on behind two projects, what the longer one has more
starts like a clause. -/
theorem opens_of_further_eq {first second : Filter} {between : List Char}
    (same : first.further = between ++ second.further) :
    between = [] ∨ ∃ opening ∈ openings, opening <+: between := by
  rcases first.further_opens with nothing | ⟨opening, known, opens⟩
  · rw [nothing] at same
    exact .inl (List.append_eq_nil_iff.mp same.symm).1
  · rw [same] at opens
    rcases List.prefix_or_prefix_of_prefix opens (List.prefix_append _ _) with longer | shorter
    · exact .inr ⟨opening, known, longer⟩
    · -- The opening would reach into what follows, which starts with an opening itself.
      obtain ⟨inside, rfl⟩ := shorter
      have follows : inside <+: second.further := (List.prefix_append_right_inj between).mp opens
      by_cases none : between = []
      · exact .inl none
      by_cases all : inside = []
      · exact .inr ⟨_, known, by simp [all]⟩
      have proper : inside ≠ between ++ inside := by simpa using none
      exfalso
      rcases second.further_opens with nothing | ⟨other, alsoKnown, opensAgain⟩
      · rw [nothing] at follows
        exact all (List.prefix_nil.mp follows)
      · have apart := not_overlapping known alsoKnown (List.suffix_append _ _) proper all
        rcases List.prefix_or_prefix_of_prefix follows opensAgain with within | beyond
        · exact apart.1 within
        · exact apart.2 beyond

theorem poses_of_longer {first second : Filter} {project other : String} {between : List Char}
    (longer : other.toList = project.toList ++ between)
    (same : first.further = between ++ second.further) : project = other ∨ Poses other project := by
  rcases opens_of_further_eq same with rfl | ⟨opening, known, opens⟩
  · exact .inl (String.toList_injective (by simpa using longer.symm))
  · refine .inr ⟨opening, known, ?_⟩
    rw [longer]
    exact (List.prefix_append_right_inj _).mpr opens

/-- Filters with the same text have the same project, or the project of one reads like
that of the other with a clause behind it. -/
theorem project_of_text_eq {first second : Filter} {project other : String}
    (ofFirst : first.project = some project) (ofSecond : second.project = some other)
    (same : first.text = second.text) :
    project = other ∨ Poses project other ∨ Poses other project := by
  have joined : project.toList ++ first.further = other.toList ++ second.further := by
    have spelled := congrArg String.toList same
    rw [text_of_project ofFirst, text_of_project ofSecond] at spelled
    simpa using spelled
  rcases List.append_eq_append_iff.mp joined with ⟨between, longer, same⟩ | ⟨between, longer, same⟩
  · exact (poses_of_longer longer same).imp id .inr
  · exact (poses_of_longer longer same).imp Eq.symm .inl

theorem not_poses_of_unquoted {project : String} (unquoted : '"' ∉ project.toList)
    (other : String) : ¬ Poses project other := by
  rintro ⟨opening, known, longer⟩
  have quoted : ∀ opening ∈ openings, '"' ∈ opening := by decide
  exact unquoted (longer.subset (List.mem_append_right _ (quoted opening known)))

end Filter

theorem Criteria.exists_project {scope : Scope} {statement : Statement} {criteria : Criteria}
    (resolved : Criteria.ofStatement scope statement = .ok criteria) :
    ∃ project, criteria.filter.project = some project := by
  obtain ⟨-, -, made⟩ := bind_eq_ok_iff.mp resolved
  split at made
  · cases made
  · cases made
    exact ⟨_, rfl⟩

namespace Statement

theorem exists_project_of_filter? {scope : Scope} {statement : Statement} {filter : Filter}
    (resolved : statement.filter? scope = some filter) :
    ∃ project, filter.project = some project := by
  unfold Statement.filter? at resolved
  split at resolved
  · cases resolved
  · rename_i task accepted
    obtain ⟨operation, selection, -, -, accepts⟩ := task_eq_ok_iff.mp accepted
    cases accepts with
    | list _ limited =>
        cases resolved
        exact Criteria.exists_project limited
    | count _ _ _ limited =>
        cases resolved
        exact Criteria.exists_project limited
    | _ => cases resolved

/-- Accepted statements whose filters have the same text are about the same project,
unless the project of one reads like that of the other with a clause behind it.  For
that it must hold a quotation mark. -/
theorem project_of_filter_text {first second : Statement} {scope other : Scope}
    {ofFirst ofSecond : Filter} (resolved : first.filter? scope = some ofFirst)
    (alsoResolved : second.filter? other = some ofSecond) (same : ofFirst.text = ofSecond.text) :
    ∃ project another, ofFirst.project = some project ∧ ofSecond.project = some another ∧
      (project = another ∨ Filter.Poses project another ∨ Filter.Poses another project) ∧
      ('"' ∉ project.toList → '"' ∉ another.toList → project = another) := by
  obtain ⟨project, given⟩ := exists_project_of_filter? resolved
  obtain ⟨another, alsoGiven⟩ := exists_project_of_filter? alsoResolved
  have compared := Filter.project_of_text_eq given alsoGiven same
  refine ⟨project, another, given, alsoGiven, compared, fun unquoted alsoUnquoted => ?_⟩
  rcases compared with equal | poses | poses
  · exact equal
  · exact absurd poses (Filter.not_poses_of_unquoted unquoted another)
  · exact absurd poses (Filter.not_poses_of_unquoted alsoUnquoted project)

def bugsOfA : Statement := ⟨"list", [⟨some "project", "A"⟩, ⟨some "type", "Bug"⟩], none⟩

def posingAsBugsOfA : Statement :=
  ⟨"list", [⟨some "project", "A AND issuetype = \"Bug\""⟩], none⟩

theorem posing_project_of_filter_text :
    posingAsBugsOfA.filter? {} = some (.ofProject "A AND issuetype = \"Bug\"") ∧
      bugsOfA.filter? {} = some { project := "A", type := "Bug" } ∧
      ∃ project another, (Filter.ofProject "A AND issuetype = \"Bug\"").project = some project ∧
        some "A" = some another ∧
        (project = another ∨ Filter.Poses project another ∨ Filter.Poses another project) ∧
        ('"' ∉ project.toList → '"' ∉ another.toList → project = another) := by
  have posing : posingAsBugsOfA.filter? {} = some (.ofProject "A AND issuetype = \"Bug\"") := rfl
  have plain : bugsOfA.filter? {} = some { project := "A", type := "Bug" } := rfl
  exact ⟨posing, plain, project_of_filter_text posing plain rfl⟩

/-- Lists of different projects, read from two texts, come to the same filter text. -/
theorem projects_confused :
    Query.parse "list(project=\"A AND issuetype = \\\"Bug\\\"\")" = .ok ⟨[posingAsBugsOfA]⟩ ∧
      Query.parse "list(project=A, type=Bug)" = .ok ⟨[bugsOfA]⟩ ∧
      ∃ ofFirst ofSecond, posingAsBugsOfA.filter? {} = some ofFirst ∧
        bugsOfA.filter? {} = some ofSecond ∧ ofFirst.text = ofSecond.text ∧
        ofFirst.project ≠ ofSecond.project :=
  ⟨by decide +kernel, by decide +kernel, _, _, rfl, rfl, rfl, by decide⟩

end Statement

end IssueQuery
