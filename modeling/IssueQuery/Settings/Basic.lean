import IssueQuery.Failure.Advice
import IssueQuery.Operation.Criteria
import IssueQuery.Service.Client

namespace IssueQuery

/-! What a user settles once for all queries: the service to ask, and the project
and the board that are meant when a query names none. -/

structure Settings where
  address : Option String := none
  email : Option String := none
  /-- If unset, the service is asked. -/
  deployment : Option Deployment := none
  auth : Option AuthScheme := none
  project : Option String := none
  board : Option UInt64 := none
  /-- How many seconds an answer may take. -/
  timeout : Option UInt64 := none
deriving DecidableEq, Repr, Inhabited

inductive Settings.Change where
  | project (key : String)
  | board (id : UInt64)
  /-- The service to ask.  What is not given becomes unset. -/
  | service (address : String) (email : Option String) (deployment : Option Deployment)
      (auth : Option AuthScheme)
deriving DecidableEq, Repr, Inhabited

namespace Settings

def apply (settings : Settings) : Change → Settings
  | .project key => { settings with project := some (Text.trim key) }
  | .board id => { settings with board := some id }
  | .service address email deployment auth =>
      { settings with
        address := some (Client.dropSlashes (Text.trim address))
        email := email
        deployment := deployment
        auth := auth }

def scope (settings : Settings) : Scope := ⟨settings.project, settings.board⟩

/-- The environment variable that holds the token. -/
def tokenVariable : String := "JIRA_API_TOKEN"

/-- How many seconds an answer may take if nothing else is settled. -/
def usualTimeout : UInt64 := 30

/-- What is needed to ask the service, with a token from elsewhere. -/
def client (settings : Settings) (token : Option String) : Except Advice ClientSettings :=
  match settings.address.filter fun address => (Text.nonblank? address).isSome,
      token.filter fun token => (Text.nonblank? token).isSome with
  | none, _ => .error .instanceMissing
  | some _, none => .error (.tokenMissing tokenVariable)
  | some address, some token =>
      .ok {
        base := address
        email := settings.email
        token := token
        deployment := settings.deployment.getD .cloud
        auth := settings.auth
        timeout := settings.timeout.getD usualTimeout }

end Settings

/-- The first scope, completed by the second where it leaves something open. -/
def Scope.or (first second : Scope) : Scope :=
  ⟨first.project?.or second.project?, first.board?.or second.board?⟩

end IssueQuery
