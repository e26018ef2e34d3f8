import IssueQuery.Service.Deployment
import IssueQuery.Service.Exchange

namespace IssueQuery

/-! Clients: services that are asked over a network. -/

structure ClientSettings where
  base : String
  email : Option String := none
  token : String
  deployment : Deployment := .cloud
  /-- If unset, the scheme depends on whether there is an address. -/
  auth : Option AuthScheme := none
  /-- How many seconds an answer may take. -/
  timeout : UInt64 := 30
deriving DecidableEq, Repr, Inhabited

/-- The credentials that go with every request. -/
def authorization (auth : Option AuthScheme) (email : Option String) (token : String) :
    Except ServiceError String :=
  let email := email.filter (· ≠ "")
  match auth.getD (if email.isSome then .basic else .bearer) with
  | .bearer => .ok ("Bearer " ++ token)
  | .basic =>
      match email with
      | none => .error (.configuration "email is required for basic auth")
      | some email => .ok ("Basic " ++ Text.base64 (email ++ ":" ++ token))

structure Client where
  base : String
  authorization : String
  deployment : Deployment
  timeout : UInt64
deriving DecidableEq, Repr, Inhabited

namespace Client

def dropSlashes (address : String) : String :=
  String.ofList (address.toList.reverse.dropWhile (· == '/')).reverse

def ofSettings (settings : ClientSettings) : Except ServiceError Client :=
  if (Text.nonblank? settings.base).isNone then
    .error (.configuration "base URL is required")
  else if settings.token = "" then
    .error (.configuration "token is required")
  else do
    let credentials ← IssueQuery.authorization settings.auth settings.email settings.token
    return ⟨dropSlashes settings.base, credentials, settings.deployment, settings.timeout⟩

def cloudInterface : String := "/rest/api/3"

def serverInterface : String := "/rest/api/2"

def boardInterface : String := "/rest/agile/1.0"

def interface : Deployment → String
  | .cloud => cloudInterface
  | .server => serverInterface

/-- A path of segments, each of them encoded. -/
def path (deployment : Deployment) (segments : List String) : String :=
  interface deployment ++ "/" ++ "/".intercalate (segments.map Text.percentEncode)

def request (client : Client) (method : Method) (path : String) : Request where
  method := method
  base := client.base
  path := path
  authorization := client.authorization
  timeout := client.timeout

def issueRequest (client : Client) (key : String) (fields : List String) : Request :=
  { client.request .get (path client.deployment ["issue", key]) with
    fields := if fields.isEmpty then none else some (",".intercalate fields) }

def projectRequest (client : Client) (key : String) : Request :=
  client.request .get (path client.deployment ["project", key])

def boardRequest (client : Client) (id : UInt64) : Request :=
  client.request .get (boardInterface ++ "/board/" ++ toString id.toNat)

def tokenPageRequest (client : Client) (search : Search) (token : Option String) : Request :=
  { client.request .post (cloudInterface ++ "/search/jql") with
    body := some (search.tokenBody token) }

def offsetPageRequest (client : Client) (search : Search) (offset : UInt64) : Request :=
  { client.request .post (serverInterface ++ "/search") with
    body := some (search.offsetBody offset) }

variable {m : Type → Type} [Monad m]

/-- Every issue of a search, which is followed through at most `pages` pages. -/
def search (arithmetic : Arithmetic) (transport : Transport m) (pages : Nat) (client : Client)
    (search : Search) : ExceptT Halt m (Except ServiceError (List Issue)) :=
  match client.deployment with
  | .cloud =>
      collectByToken
        (fun token => Exchange.fetch transport (client.tokenPageRequest search token)
          TokenPage.ofSource?) pages none
  | .server =>
      collectByOffset arithmetic
        (fun offset => Exchange.fetch transport (client.offsetPageRequest search offset)
          OffsetPage.ofSource?) pages 0

def answer (arithmetic : Arithmetic) (transport : Transport m) (pages : Nat) (client : Client) :
    (call : Call) → ExceptT Halt m (Except ServiceError call.Answer)
  | .issue key fields =>
      .lift (Exchange.fetch transport (client.issueRequest key fields) Issue.ofSource?)
  | .issues filter fields =>
      client.search arithmetic transport pages { text := filter.text, fields }
  | .search text fields => client.search arithmetic transport pages { text, fields }
  | .project key =>
      .lift (Exchange.fetch transport (client.projectRequest key) Project.ofSource?)
  | .board id => .lift (Exchange.fetch transport (client.boardRequest id) Board.ofSource?)

structure ServerInfo where
  deploymentType : String := ""
deriving DecidableEq, Repr, Inhabited

def ServerInfo.ofSource? (source : Json.Source) : Option ServerInfo := do
  let fields ← source.fields? ["deploymentType"]
  return { deploymentType := ← Json.Source.fieldD? fields "deploymentType" Json.Source.string? "" }

/-- A service that says it is no hosted site is a server; one that says nothing
intelligible is taken for a hosted site. -/
def deploymentOf : Except ServiceError ServerInfo → Deployment
  | .ok info => if info.deploymentType = "Cloud" then .cloud else .server
  | .error _ => .cloud

/-- Asks the service how it is run, and goes by that. -/
def detect (transport : Transport m) (client : Client) : m Client := do
  let info ← Exchange.fetch transport (client.request .get (serverInterface ++ "/serverInfo"))
    ServerInfo.ofSource?
  return { client with deployment := deploymentOf info }

end Client

end IssueQuery
