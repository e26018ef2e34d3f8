import IssueQuery.Operation.Basic

namespace IssueQuery

/-! What is said of each operation: a description, its parameters, and examples
of its use. -/

structure Parameter where
  name : String
  type : String
  isOptional : Bool := true
  standard : Option String := none
  description : String
deriving DecidableEq, Repr, Inhabited

namespace Operation

def description : Operation → String
  | .get => "Fetch a single issue by key"
  | .list => "List issues with filters, sorting, and pagination"
  | .count => "Count issues matching filters"
  | .summary => "Project/board overview with issue counts by status and type"
  | .search => "Search issues using raw JQL"
  | .schema => "Describe operations, fields, and presets"

def parameters : Operation → List Parameter
  | .get =>
      [{ name := "key", type := "string", isOptional := false,
         description := "Issue key (positional), e.g. PROJ-123" }]
  | .list =>
      [{ name := "project", type := "string",
         description := "Project key (positional or named; defaults to configured project)" },
        { name := "type", type := "string",
          description := "Issue type filter (epic, story, task, bug)" },
        { name := "status", type := "string", description := "Status filter" },
        { name := "assignee", type := "string", description := "Assignee display name filter" },
        { name := "priority", type := "string", description := "Priority name filter" },
        { name := "sort_<field>", type := "asc|desc",
          description :=
            "Sort by one field (key, summary, status, assignee, type, priority, created, updated)" },
        { name := "skip", type := "int", standard := some "0",
          description := "Skip first N items" },
        { name := "take", type := "int", description := "Return at most N items" }]
  | .count =>
      [{ name := "project", type := "string",
         description := "Project key (defaults to configured project)" },
        { name := "type", type := "string", description := "Issue type filter" },
        { name := "status", type := "string", description := "Status filter" },
        { name := "assignee", type := "string", description := "Assignee display name filter" },
        { name := "priority", type := "string", description := "Priority name filter" }]
  | .summary =>
      [{ name := "project", type := "string",
         description := "Project key (defaults to configured project)" },
        { name := "board", type := "int",
          description := "Board ID (defaults to configured board)" }]
  | .search =>
      [{ name := "jql", type := "string", isOptional := false,
         description := "JQL query string (named or positional)" }]
  | .schema => []

def examples : Operation → List String
  | .get => ["get(PROJ-123) \x7b overview \x7d", "get(PROJ-456) \x7b full \x7d"]
  | .list =>
      ["list() \x7b overview \x7d",
        "list(project=PROJ, type=epic) \x7b minimal \x7d",
        "list(status=open, sort_key=asc) \x7b default \x7d",
        "list(skip=10, take=5) \x7b overview \x7d"]
  | .count => ["count()", "count(status=done)", "count(project=PROJ, type=bug)"]
  | .summary => ["summary()", "summary(project=PROJ)", "summary(board=42)"]
  | .search =>
      ["search(jql=\"assignee = currentUser()\") \x7b default \x7d",
        "search(jql=\"project = PROJ AND status = Open\") \x7b overview \x7d"]
  | .schema => ["schema()"]

end Operation

end IssueQuery
