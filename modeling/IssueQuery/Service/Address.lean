namespace IssueQuery

/-! Addresses of services.

An address consists of a scheme, the authority that is asked, a path from the first
slash on and a query behind a question mark.  A fragment behind a number sign belongs
to none of them and is dropped.  What starts with a slash is a path without scheme
and authority. -/

structure Address where
  scheme : Option String := none
  authority : String := ""
  path : String := ""
  query : Option String := none
deriving DecidableEq, Repr, Inhabited

namespace Address

inductive Fault where
  | tooLong
  | schemeTooLong
  /-- A character stands where it must not. -/
  | character
  /-- Colons, brackets, percent signs or at signs stand where they must not. -/
  | authority
  /-- The scheme or the authority is missing in front of something else. -/
  | form
  /-- There is no telling how to ask a whole address. -/
  | withoutScheme (address : String)
  | unknownScheme (scheme : String)
deriving DecidableEq, Repr, Inhabited

def Fault.message : Fault → String
  | .tooLong => "http: uri too long"
  | .schemeTooLong => "http: scheme too long"
  | .character => "http: invalid uri character"
  | .authority => "http: invalid authority"
  | .form => "http: invalid format"
  | .withoutScheme address => "bad uri: " ++ address ++ " is missing scheme"
  | .unknownScheme scheme => "bad uri: unknown scheme: " ++ scheme

def isSchemeChar (character : Char) : Bool :=
  character.isAlphanum || "+-.~".toList.contains character

/-- The characters that stand in an authority without further conditions. -/
def isAuthorityChar (character : Char) : Bool :=
  character.isAlphanum || "!$&'()*+,-.;=_~".toList.contains character

/-- The characters that end an authority. -/
def isAuthorityEnd (character : Char) : Bool := "/?#".toList.contains character

/-- A character that can be seen, or stands beyond ASCII. -/
def isVisible (character : Char) : Bool :=
  0x20 < character.toNat && character.toNat != 0x7F

def isPathChar (character : Char) : Bool :=
  isVisible character && !"<>\x60".toList.contains character

def isQueryChar (character : Char) : Bool :=
  isVisible character && !"\"<>".toList.contains character

/-- What is known of an authority that has been read up to some character. -/
structure Progress where
  /-- The colons that may stand in front of a port. -/
  colons : Nat := 0
  opened : Bool := false
  closed : Bool := false
  /-- Whether a percent sign stands where only a host may be. -/
  escaped : Bool := false
deriving DecidableEq, Repr, Inhabited

/-- The most colons that a bracketed host and its port may have. -/
def colonLimit : Nat := 8

/-- Reads one more character.  What stands in front of an at sign names a user and
what stands in brackets is a host, so that neither restricts what follows. -/
def Progress.step (progress : Progress) (character : Char) : Except Fault Progress :=
  match character with
  | ':' =>
      if colonLimit ≤ progress.colons then .error .authority
      else .ok { progress with colons := progress.colons + 1 }
  | '[' =>
      if progress.escaped || progress.opened then .error .authority
      else .ok { progress with opened := true }
  | ']' =>
      if progress.closed || !progress.opened then .error .authority
      else .ok { progress with closed := true, colons := 0, escaped := false }
  | '@' => .ok { progress with colons := 0, escaped := false }
  | '%' => .ok { progress with escaped := true }
  | other => if isAuthorityChar other then .ok progress else .error .character

/-- Whether an authority may end here: its brackets are closed, a single port
follows the host, and the host is not percent encoded. -/
def Progress.isFinal (progress : Progress) : Bool :=
  progress.opened == progress.closed && progress.colons ≤ 1 && !progress.escaped

def checkAuthority (authority : List Char) : Except Fault Unit := do
  let progress ← authority.foldlM Progress.step {}
  if progress.isFinal && authority.getLast? != some '@' then .ok () else .error .authority

/-- How many bytes an address may have. -/
def longest : Nat := 65534

def longestScheme : Nat := 64

def splitScheme (text : List Char) : Except Fault (Option String × List Char) :=
  let name := text.takeWhile isSchemeChar
  match text.dropWhile isSchemeChar with
  | ':' :: '/' :: '/' :: rest =>
      if longestScheme < name.length then .error .schemeTooLong
      else .ok (some (String.ofList name), rest)
  | _ => .ok (none, text)

/-- The path, and the query behind a question mark, up to the fragment. -/
def readTarget (text : List Char) : Except Fault (String × Option String) :=
  let target := text.takeWhile (· != '#')
  let path := target.takeWhile (· != '?')
  match target.dropWhile (· != '?') with
  | [] => if path.all isPathChar then .ok (String.ofList path, none) else .error .character
  | _ :: query =>
      if path.all isPathChar && query.all isQueryChar then
        .ok (String.ofList path, some (String.ofList query))
      else .error .character

def ofText (text : String) : Except Fault Address := do
  if longest < text.utf8ByteSize then .error .tooLong
  else if text.toList.head? = some '/' then
    let (path, query) ← readTarget text.toList
    return { path, query }
  else
    let (scheme, rest) ← splitScheme text.toList
    let authority := rest.takeWhile fun character => !isAuthorityEnd character
    let behind := rest.dropWhile fun character => !isAuthorityEnd character
    checkAuthority authority
    if scheme.isNone then
      if behind.isEmpty then return { authority := String.ofList authority } else .error .form
    else if authority.isEmpty then .error .form
    else
      let (path, query) ← readTarget behind
      return { scheme, authority := String.ofList authority, path, query }

def text (address : Address) : String :=
  ((address.scheme.map (· ++ "://")).getD "") ++ address.authority ++ address.path ++
    ((address.query.map ("?" ++ ·)).getD "")

/-- The schemes that say how to ask, in lower case. -/
def knownSchemes : List String :=
  ["http", "https", "socks", "socks4", "socks4a", "socks5", "socks5h"]

/-- What keeps an address from being asked, if anything does. -/
def fault? (address : Address) : Option Fault :=
  match address.scheme with
  | none => some (.withoutScheme address.text)
  | some name =>
      if knownSchemes.contains (name.map Char.toLower) then none else some (.unknownScheme name)

end Address

end IssueQuery
