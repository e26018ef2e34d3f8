import IssueQuery.Failure.Basic

namespace IssueQuery

/-! How failures are told to other programs: by a code, and by the exit status
of the process. -/

inductive ExitStatus where
  | success
  | general
  | usage
  | notFound
  | invalid
  | external
deriving DecidableEq, Repr, Inhabited

namespace ExitStatus

def all : List ExitStatus := [.success, .general, .usage, .notFound, .invalid, .external]

def number : ExitStatus → Nat
  | .success => 0
  | .general => 1
  | .usage => 2
  | .notFound => 3
  | .invalid => 4
  | .external => 10

def description : ExitStatus → String
  | .success => "Command succeeded"
  | .general => "Generic error occurred"
  | .usage => "Query syntax error or invalid usage"
  | .notFound => "Issue, project or board not found"
  | .invalid => "Invalid or missing operation argument"
  | .external => "Tracking service unreachable or returned an error"

end ExitStatus

inductive ErrorCode where
  | malformed
  | invalid
  | notFound
  | api
  | network
  | configuration
  | internal
deriving DecidableEq, Repr, Inhabited

namespace ErrorCode

def all : List ErrorCode :=
  [.malformed, .invalid, .notFound, .api, .network, .configuration, .internal]

def text : ErrorCode → String
  | .malformed => "SYNTAX_ERROR"
  | .invalid => "VALIDATION_FAILED"
  | .notFound => "NOT_FOUND"
  | .api => "API_ERROR"
  | .network => "NETWORK_ERROR"
  | .configuration => "CONFIG_ERROR"
  | .internal => "INTERNAL_ERROR"

def exitStatus : ErrorCode → ExitStatus
  | .malformed => .usage
  | .invalid => .invalid
  | .notFound => .notFound
  | .api => .external
  | .network => .external
  | .configuration => .general
  | .internal => .general

/-- The exit status for the text of a code; an unknown text is a general
error. -/
def exitStatusOfText (text : String) : ExitStatus :=
  ((all.find? (·.text = text)).map exitStatus).getD .general

end ErrorCode

def ServiceError.code : ServiceError → ErrorCode
  | .notFound _ => .notFound
  | .refused _ _ => .api
  | .transport _ => .network
  | .unreadable _ => .api
  | .configuration _ => .configuration

def QueryError.code : QueryError → ErrorCode
  | .malformed .. => .malformed
  | .invalid .. => .invalid
  | .internal _ => .internal
  | .service cause => cause.code
  | .statement _ _ cause => cause.code

end IssueQuery
