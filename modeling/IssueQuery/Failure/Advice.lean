namespace IssueQuery

/-! Problems that the user can mend, with possible causes and remedies. -/

structure Advice where
  message : String
  causes : List String := []
  remedies : List String := []
deriving DecidableEq, Repr, Inhabited

namespace Advice

/-- A headed list, or nothing for an empty one. -/
def paragraph (heading : String) (entries : List String) : String :=
  if entries.isEmpty then ""
  else "\n" ++ heading ++ ":\n" ++ String.join (entries.map fun entry => "  • " ++ entry ++ "\n")

def text (advice : Advice) : String :=
  advice.message ++ "\n" ++ paragraph "Possible causes" advice.causes ++
    paragraph "To fix" advice.remedies

def instanceMissing : Advice where
  message := "Jira instance URL is not configured"
  causes :=
    ["jira-mgmt has not been set up on this machine",
      "The config file path points somewhere unexpected"]
  remedies :=
    ["Set the instance: jira-mgmt config set-instance https://<site>.atlassian.net --email <you@example.com>",
      "Inspect the active config: jira-mgmt config show"]

/-- There is no token in the environment variable. -/
def tokenMissing (variableName : String) : Advice where
  message := "API token not found in $" ++ variableName
  causes := ["The token environment variable is not exported in this shell"]
  remedies :=
    ["export " ++ variableName ++ "=<api-token>",
      "Cloud tokens are created at https://id.atlassian.com/manage-profile/security/api-tokens"]

def instanceUnreachable (address detail : String) : Advice where
  message := "Could not reach " ++ address
  causes := [detail, "The network or corporate VPN may be down"]
  remedies :=
    ["Check connectivity to the instance in a browser",
      "Verify the instance URL: jira-mgmt config show"]

end Advice

end IssueQuery
