import IssueQuery.Json.Decode

namespace IssueQuery

/-! How a service is run, and how one identifies oneself to it. -/

inductive Deployment where
  /-- A hosted site: version 3 of the interface, pages by token. -/
  | cloud
  /-- A server of one's own: version 2 of the interface, pages by offset. -/
  | server
deriving DecidableEq, Repr, Inhabited

inductive AuthScheme where
  /-- By address and token. -/
  | basic
  /-- By token alone. -/
  | bearer
deriving DecidableEq, Repr, Inhabited

namespace Deployment

def name : Deployment → String
  | .cloud => "cloud"
  | .server => "server"

def all : List Deployment := [.cloud, .server]

def ofName? (name : String) : Option Deployment := all.find? (·.name = name)

end Deployment

namespace AuthScheme

def name : AuthScheme → String
  | .basic => "basic"
  | .bearer => "bearer"

def all : List AuthScheme := [.basic, .bearer]

def ofName? (name : String) : Option AuthScheme := all.find? (·.name = name)

end AuthScheme

/-- A choice is written as its name, or as an object with its name as the only
member and nothing in it. -/
def Json.Source.choice? {α : Type} (ofName? : String → Option α) : Json.Source → Option α
  | .string name => ofName? name
  | .object [(some name, .null)] => ofName? name
  | _ => none

def Deployment.ofSource? : Json.Source → Option Deployment := Json.Source.choice? ofName?

def AuthScheme.ofSource? : Json.Source → Option AuthScheme := Json.Source.choice? ofName?

def Deployment.toJson (deployment : Deployment) : Json := .string deployment.name

def AuthScheme.toJson (scheme : AuthScheme) : Json := .string scheme.name

end IssueQuery
