import IssueQuery.Failure.Advice
import IssueQuery.Failure.Code
import IssueQuery.Json.Printer

namespace IssueQuery

/-! Failures as JSON. -/

def envelopeVersion : String := "0.1.0"

/-- What an envelope says about a failure. -/
structure Report where
  code : String
  message : String
  details : Option Json := none
  suggestions : List String := []
deriving Inhabited

namespace Report

/-- What else is known of an error, by name.  A name that both the statement and
its cause know has the cause's value. -/
def detailsOf (error : QueryError) : List (String × Json) :=
  let outer :=
    match error with
    | .statement operation index _ =>
        [("operation", Json.string operation), ("statement_index", .ofNat index)]
    | _ => []
  let inner :=
    match error.root with
    | .malformed _ position lexeme =>
        [("position", Json.ofNat position), ("lexeme", .string lexeme)]
    | .invalid operation argument _ =>
        ("operation", Json.string operation) ::
          (argument.map fun name => ("argument", Json.string name)).toList
    | .service (.refused status _) => [("status", .ofNat status)]
    | _ => []
  Json.sortMembers (outer ++ inner)

def suggestionsFor : ErrorCode → List String
  | .malformed => ["Run 'jira-mgmt schema' to list operations and fields"]
  | .notFound => ["Check the key or ID; it may have been moved or deleted"]
  | _ => []

def ofQueryError (error : QueryError) : Report :=
  let details := detailsOf error
  { code := error.code.text
    message := error.message
    details := if details.isEmpty then none else some (.object details)
    suggestions := suggestionsFor error.code }

def ofAdvice (advice : Advice) : Report :=
  { code := ErrorCode.configuration.text
    message := advice.message
    suggestions := advice.remedies }

/-- The envelope of a report, for a command at a time. -/
def envelope (report : Report) (command timestamp : String) : Json :=
  .object
    [("success", .bool false),
      ("error", .object
        ([("code", Json.string report.code), ("message", .string report.message)] ++
          (report.details.map fun details => ("details", details)).toList ++
          (if report.suggestions.isEmpty then []
            else [("suggestions", .ofStrings report.suggestions)]))),
      ("metadata", .object
        [("timestamp", .string timestamp), ("version", .string envelopeVersion),
          ("command", .string command)])]

end Report

end IssueQuery
