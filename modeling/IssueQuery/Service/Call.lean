import IssueQuery.Issue.Basic
import IssueQuery.Service.Filter

namespace IssueQuery

/-! What is asked of a service, and what it can say.

The names of fields are those of the service; an empty list leaves the choice
to it. -/

/-- Why a service gives no answer. -/
inductive ServiceError where
  | notFound (resource : String)
  /-- The service answered with a status that is no success. -/
  | refused (status : Nat) (messages : List String)
  /-- There was no answer. -/
  | transport (detail : String)
  /-- The answer could not be understood. -/
  | unreadable (detail : String)
  /-- The settings do not describe a service. -/
  | configuration (detail : String)
deriving DecidableEq, Repr, Inhabited

def ServiceError.message : ServiceError → String
  | .notFound resource => resource ++ " not found"
  | .refused status messages =>
      "API error (HTTP " ++ toString status ++ "): " ++ "; ".intercalate messages
  | .transport detail => "request failed: " ++ detail
  | .unreadable detail => "failed to decode response: " ++ detail
  | .configuration detail => "client configuration: " ++ detail

/-- A request for resources. -/
inductive Call where
  | issue (key : String) (fields : List String)
  /-- Every issue that a filter matches. -/
  | issues (filter : Filter) (fields : List String)
  /-- Every issue that a text in the service's own query language matches. -/
  | search (text : String) (fields : List String)
  | project (key : String)
  | board (id : UInt64)
deriving DecidableEq, Repr, Inhabited

/-- The type of what a call asks for. -/
abbrev Call.Answer : Call → Type
  | .issue .. => Issue
  | .issues .. => List Issue
  | .search .. => List Issue
  | .project .. => Project
  | .board .. => Board

def Call.fields? : Call → Option (List String)
  | .issue _ fields => some fields
  | .issues _ fields => some fields
  | .search _ fields => some fields
  | .project _ => none
  | .board _ => none

/-- A service whose answers depend on nothing but the call. -/
abbrev Service := (call : Call) → Except ServiceError call.Answer

namespace Service

/-- The service that is not there. -/
def offline : Service := fun _ =>
  .error (.configuration "no instance is available for this query")

def logged (service : Service) (call : Call) :
    StateM (List Call) (Except ServiceError call.Answer) := do
  modify (· ++ [call])
  return service call

end Service

end IssueQuery
