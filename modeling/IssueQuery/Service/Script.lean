import IssueQuery.Service.Exchange

namespace IssueQuery

/-! Services that follow a script: they answer with given replies, one after the
other, whatever they are asked. -/

structure Script where
  replies : List Reply := []
  requests : List Request := []
  /-- The pauses made so far, in seconds. -/
  pauses : List Nat := []
deriving Inhabited

namespace Script

/-- The reply when nothing is left of the script. -/
def exhausted : Reply := .answer 400 "no scripted response"

/-- Takes note of a request and gives the next reply. -/
def reply (request : Request) (script : Script) : Reply × Script :=
  match script.replies with
  | [] => (exhausted, { script with requests := script.requests ++ [request] })
  | first :: rest =>
      (first, { script with replies := rest, requests := script.requests ++ [request] })

def pause (seconds : Nat) (script : Script) : Script :=
  { script with pauses := script.pauses ++ [seconds] }

/-- The exchange of messages with a service that follows a script. -/
def transport : Transport (StateM Script) where
  exchange request := fun script =>
    match request.fault? with
    | none => script.reply request
    | some fault => (.unsendable fault, script)
  pause seconds := modify (pause seconds)

/-- The same where the network is down: no request arrives. -/
def disconnected : Transport (StateM Script) where
  exchange request :=
    return match request.fault? with
      | none => .unreachable "connection refused"
      | some fault => .unsendable fault
  pause seconds := modify (pause seconds)

end Script

end IssueQuery
