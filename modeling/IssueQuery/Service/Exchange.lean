import IssueQuery.Json.Printer
import IssueQuery.Service.Address
import IssueQuery.Service.Page
import IssueQuery.Text.Blank
import IssueQuery.Text.Bytes

namespace IssueQuery

/-! Single requests to a service, and asking again when it is busy. -/

inductive Method where
  | get
  | post
deriving DecidableEq, Repr, Inhabited

def Method.name : Method → String
  | .get => "GET"
  | .post => "POST"

structure Request where
  method : Method
  base : String
  path : String
  /-- The fields to ask for, as the value of a query. -/
  fields : Option String := none
  authorization : String
  body : Option Json := none
  /-- How many seconds the answer may take. -/
  timeout : UInt64
deriving Repr, Inhabited

namespace Request

/-- Path and query as they are sent. -/
def target (request : Request) : String :=
  request.path ++
    ((request.fields.map fun fields => "?fields=" ++ Text.percentEncodeQuery fields).getD "")

/-- The media type asked for. -/
def accept : String := "application/json"

/-- What can keep a request from being sent. -/
inductive Fault where
  | address (fault : Address.Fault)
  /-- A control character stands among the credentials. -/
  | credentials
deriving DecidableEq, Repr, Inhabited

def Fault.message : Fault → String
  | .address fault => fault.message
  | .credentials => "http: failed to parse header value"

def isHeaderChar (character : Char) : Bool :=
  character == '\t' || (0x20 ≤ character.toNat && character.toNat != 0x7F)

/-- What keeps the request from being sent, if anything does.  How to ask its
address matters only once all else can be written down. -/
def fault? (request : Request) : Option Fault :=
  match Address.ofText (request.base ++ request.path) with
  | .error fault => some (.address fault)
  | .ok address =>
      if request.authorization.toList.all isHeaderChar then address.fault?.map .address
      else some .credentials

end Request

inductive Reply where
  /-- A status and a body. -/
  | answer (status : Nat) (body : String)
  /-- The body of the answer could not be read. -/
  | broken (detail : String)
  /-- There is no connection to the service. -/
  | unreachable (detail : String)
  | unsendable (fault : Request.Fault)
deriving DecidableEq, Repr, Inhabited

/-- A way to exchange messages with a service, and to let time pass. -/
structure Transport (m : Type → Type) where
  exchange : Request → m Reply
  /-- Waits for a number of seconds. -/
  pause : Nat → m Unit

/-- The error messages in the body of an answer. -/
structure ErrorBody where
  general : List String := []
  /-- Messages on single fields, in ascending order of names. -/
  byField : List (String × String) := []
deriving DecidableEq, Repr, Inhabited

namespace ErrorBody

open Json.Source

def ofSource? (source : Json.Source) : Option ErrorBody := do
  let fields ← source.fields? ["errorMessages", "errors"]
  return {
    general := ← fieldD? fields "errorMessages" (list? string?) []
    byField := ← fieldD? fields "errors" (map? string?) [] }

def messages (body : ErrorBody) : List String :=
  body.general ++ body.byField.map fun (field, message) => field ++ ": " ++ message

end ErrorBody

namespace Exchange

def retryLimit : Nat := 3

/-- The longest pause in seconds. -/
def longestPause : Nat := 60

/-- The pause in seconds after so many repetitions: it doubles each time. -/
def backoff (attempt : Nat) : Nat := min (Nat.pow 2 (min attempt 6)) longestPause

/-- Whether a service that answers so may answer otherwise later. -/
def isTransient (status : Nat) : Bool := status == 429 || decide (500 ≤ status)

def isSuccess (status : Nat) : Bool := decide (200 ≤ status) && decide (status < 300)

/-- What the body of an answer says went wrong, which is never nothing. -/
def messages (status : Nat) (body : String) : List String :=
  match ((Json.Source.ofText? body).bind ErrorBody.ofSource?).map ErrorBody.messages with
  | some (first :: rest) => first :: rest
  | _ => [(Text.nonblank? body).getD ("HTTP " ++ toString status)]

def errorOf (status : Nat) (body path : String) : ServiceError :=
  if status = 404 then .notFound path else .refused status (messages status body)

/-- The error of a request that got no answer. -/
def unreachable (base detail : String) : ServiceError :=
  .transport ("could not reach " ++ base ++ " (" ++ detail ++
    "); check the network connection or VPN")

/-- What a reply means for the request. -/
inductive Verdict where
  | settled (result : Except ServiceError String)
  /-- The service is busy; if it is not asked again, this is the error. -/
  | busy (cause : ServiceError)

def Verdict.result : Verdict → Except ServiceError String
  | .settled result => result
  | .busy cause => .error cause

def judge (request : Request) : Reply → Verdict
  | .unsendable fault => .settled (.error (.transport fault.message))
  | .unreachable detail => .settled (.error (unreachable request.base detail))
  | .broken detail => .settled (.error (.transport detail))
  | .answer status body =>
      if isSuccess status then .settled (.ok body)
      else if isTransient status then .busy (errorOf status body request.path)
      else .settled (.error (errorOf status body request.path))

variable {m : Type → Type} [Monad m]

/-- Sends a request, and repeats it up to `retries` times while the service is
busy.  The body of a successful answer is the result. -/
def sendWith (transport : Transport m) (request : Request) :
    (retries : Nat) → m (Except ServiceError String)
  | 0 => return (judge request (← transport.exchange request)).result
  | retries + 1 => do
      match judge request (← transport.exchange request) with
      | .settled result => return result
      | .busy _ =>
          transport.pause (backoff (retryLimit - (retries + 1)))
          sendWith transport request retries

def send (transport : Transport m) (request : Request) : m (Except ServiceError String) :=
  sendWith transport request retryLimit

def fetch {Resource : Type} (transport : Transport m) (request : Request)
    (decode : Json.Source → Option Resource) : m (Except ServiceError Resource) := do
  match ← send transport request with
  | .error cause => return .error cause
  | .ok body =>
      match (Json.Source.ofText? body).bind decode with
      | some resource => return .ok resource
      | none => return .error (.unreadable "the body has not the expected form")

end Exchange

end IssueQuery
