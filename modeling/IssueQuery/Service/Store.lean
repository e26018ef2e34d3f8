import IssueQuery.Service.Call
import IssueQuery.Text.Caseless

namespace IssueQuery

/-! A service whose resources are held in a store. -/

structure Store where
  /-- In order of insertion. -/
  issues : List Issue := []
  projects : List Project := []
  boards : List Board := []
  /-- The keys that a search text leads to. -/
  searches : List (String × List String) := []
deriving Inhabited

namespace Store

def insertIssue (store : Store) (issue : Issue) : Store :=
  { store with issues := store.issues ++ [issue] }

/-- A project replaces the one with the same key. -/
def insertProject (store : Store) (project : Project) : Store :=
  { store with projects := project :: store.projects.filter (·.key ≠ project.key) }

/-- A board replaces the one with the same identifier. -/
def insertBoard (store : Store) (board : Board) : Store :=
  { store with boards := board :: store.boards.filter (·.id ≠ board.id) }

/-- Fixes what a search text finds, in order. -/
def insertSearch (store : Store) (text : String) (keys : List String) : Store :=
  { store with searches := (text, keys) :: store.searches.filter (·.1 ≠ text) }

def issue? (store : Store) (key : String) : Option Issue :=
  store.issues.find? (·.key = key)

/-- Whether a name is the wanted one, regardless of case.  No name at all is
only right if none is wanted. -/
def matchesName (actual wanted : Option String) : Bool :=
  match wanted with
  | none => true
  | some wanted => actual.any (Text.sameIgnoringCase · wanted)

def matchesFilter (filter : Filter) (issue : Issue) : Bool :=
  matchesName issue.projectKey filter.project && matchesName issue.typeName filter.type &&
    matchesName issue.statusName filter.status

def service (store : Store) : Service
  | .issue key _ =>
      match store.issue? key with
      | some issue => .ok issue
      | none => .error (.notFound ("issue " ++ key))
  | .issues filter _ => .ok (store.issues.filter (matchesFilter filter))
  | .search text _ =>
      match store.searches.lookup text with
      | some keys => .ok (keys.filterMap store.issue?)
      | none => .error (.refused 400 ["Error in the JQL Query: " ++ text])
  | .project key =>
      match store.projects.find? (·.key = key) with
      | some project => .ok project
      | none => .error (.notFound ("project " ++ key))
  | .board id =>
      match store.boards.find? (·.id = id) with
      | some board => .ok board
      | none => .error (.notFound ("board " ++ toString id.toNat))

end Store

end IssueQuery
