import IssueQuery.Issue.Codec
import IssueQuery.Service.Call
import IssueQuery.Service.Halt

namespace IssueQuery

/-! Searches that are answered page by page. -/

open Json.Source

/-- A page that names its successor by a token. -/
structure TokenPage where
  issues : List Issue := []
  nextToken : Option String := none
  isLast : Bool := false
deriving Inhabited

/-- A page that says where it starts and how long the whole result is. -/
structure OffsetPage where
  startAt : UInt64 := 0
  maxResults : UInt64 := 0
  total : UInt64 := 0
  issues : List Issue := []
deriving Inhabited

namespace TokenPage

def ofSource? (source : Json.Source) : Option TokenPage := do
  let fields ← source.fields? ["issues", "nextPageToken", "isLast"]
  return {
    issues := ← fieldD? fields "issues" (list? Issue.ofSource?) []
    nextToken := ← fieldD? fields "nextPageToken" (optional? string?) none
    isLast := ← fieldD? fields "isLast" bool? false }

/-- The token of the following page.  An empty token names none. -/
def next? (page : TokenPage) : Option String :=
  if page.isLast then none else page.nextToken.filter (· ≠ "")

end TokenPage

namespace OffsetPage

def ofSource? (source : Json.Source) : Option OffsetPage := do
  let fields ← source.fields? ["startAt", "maxResults", "total", "issues"]
  return {
    startAt := ← fieldD? fields "startAt" word? 0
    maxResults := ← fieldD? fields "maxResults" word? 0
    total := ← fieldD? fields "total" word? 0
    issues := ← fieldD? fields "issues" (list? Issue.ofSource?) [] }

/-- Whether nothing follows the page: it reaches the total, or it is empty.  Where it
ends is reckoned first, even of an empty page. -/
def isLast (arithmetic : Arithmetic) (page : OffsetPage) : Except Halt Bool := do
  let finish ← arithmetic.add page.startAt page.issues.length
  return page.total ≤ finish || page.issues.isEmpty

end OffsetPage

variable {m : Type → Type} [Monad m]

/-- Collects the issues of a page and of those that follow it by token, as long
as there are, but follows no more than `pages` pages. -/
def collectByToken (fetch : Option String → m (Except ServiceError TokenPage)) :
    (pages : Nat) → (token : Option String) → ExceptT Halt m (Except ServiceError (List Issue))
  | 0, _ => throw .cutOff
  | pages + 1, token => do
      match ← fetch token with
      | .error cause => return .error cause
      | .ok page =>
          match page.next? with
          | none => return .ok page.issues
          | some next =>
              match ← collectByToken fetch pages (some next) with
              | .error cause => return .error cause
              | .ok others => return .ok (page.issues ++ others)

/-- Collects the issues from an offset on, but follows no more than `pages` pages.
The next offset is the number of issues received so far; what a program has in its
memory never outnumbers the words, so that this sum needs no check. -/
def collectByOffset (arithmetic : Arithmetic)
    (fetch : UInt64 → m (Except ServiceError OffsetPage)) :
    (pages : Nat) → (offset : UInt64) → ExceptT Halt m (Except ServiceError (List Issue))
  | 0, _ => throw .cutOff
  | pages + 1, offset => do
      match ← fetch offset with
      | .error cause => return .error cause
      | .ok page =>
          match page.isLast arithmetic with
          | .error halt => throw halt
          | .ok true => return .ok page.issues
          | .ok false =>
              let next := offset + page.issues.length.toUInt64
              match ← collectByOffset arithmetic fetch pages next with
              | .error cause => return .error cause
              | .ok others => return .ok (page.issues ++ others)

/-- A search, apart from the place where a page starts. -/
structure Search where
  text : String
  /-- The fields to ask for; none leaves the choice to the service. -/
  fields : List String
  pageSize : Nat := 100
deriving DecidableEq, Repr, Inhabited

namespace Search

/-- What every page of a search is asked with. -/
def members (search : Search) : List (String × Json) :=
  [("jql", Json.string search.text), ("maxResults", .ofNat search.pageSize)] ++
    (if search.fields.isEmpty then [] else [("fields", .ofStrings search.fields)])

def tokenBody (search : Search) (token : Option String) : Json :=
  .object (search.members ++
    (token.map fun token => ("nextPageToken", Json.string token)).toList)

def offsetBody (search : Search) (offset : UInt64) : Json :=
  .object (search.members ++ [("startAt", .ofNat offset.toNat)])

end Search

end IssueQuery
