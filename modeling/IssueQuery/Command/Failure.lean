import IssueQuery.Failure.Envelope
import IssueQuery.Settings.File

namespace IssueQuery

/-! How commands fail. -/

inductive Failure where
  | query (error : QueryError)
  | advice (advice : Advice)
  | service (error : ServiceError)
  | settings (error : SettingsError)
  /-- Nothing says where the settings are. -/
  | homeless
deriving DecidableEq, Repr, Inhabited

namespace Failure

def settingsVariable : String := "JIRA_MGMT_CONFIG"

/-- The messages from what failed to its cause. -/
def messageChain : Failure → List String
  | .query error => error.messageChain
  | .advice hint => [hint.text]
  | .service error => [error.message]
  | .settings error => error.messageChain
  | .homeless =>
      ["Could not determine a config directory; pass --config or set " ++ settingsVariable]

def message (failure : Failure) : String := ": ".intercalate failure.messageChain

def status : Failure → ExitStatus
  | .query error => error.code.exitStatus
  | .service (.notFound _) => .notFound
  | .service (.configuration _) => .general
  | .service _ => .external
  | .advice _ => .general
  | .settings _ => .general
  | .homeless => .general

/-- What is told about a failure that is neither a query's nor comes with advice. -/
def plainReport (failure : Failure) : Report where
  code := (if failure.status = .external then ErrorCode.network else .internal).text
  message := failure.message

def report : Failure → Report
  | .query error => .ofQueryError error
  | .advice hint => .ofAdvice hint
  | failure => failure.plainReport

end Failure

end IssueQuery
