import IssueQuery.Disk.Basic

namespace IssueQuery

/-! Disks held in memory.

A tree is the list of what it holds, each by the names on the way from its root.
What stands at a place is known from the first entry for it, and a directory has
an entry of its own. -/

/-- What stands at some place of a tree. -/
inductive Tree.Node where
  | directory
  | file (text : String)
deriving DecidableEq, Repr, Inhabited

structure Tree where
  /-- The directory where a path starts that does not start at the root. -/
  current : List String := []
  nodes : List (List String × Tree.Node) := []
deriving DecidableEq, Repr, Inhabited

namespace Tree

/-- What stands at a place; the root is always a directory. -/
def node? (tree : Tree) (place : List String) : Option Node :=
  if place.isEmpty then some .directory else tree.nodes.lookup place

def put (tree : Tree) (place : List String) (node : Node) : Tree :=
  { tree with nodes := (place, node) :: tree.nodes.filter (·.1 ≠ place) }

/-- The parts of a path between its slashes. -/
def split : List Char → List (List Char)
  | [] => [[]]
  | '/' :: rest => [] :: split rest
  | character :: rest =>
      match split rest with
      | [] => [[character]]
      | part :: parts => (character :: part) :: parts

def parts (path : String) : List String := (split path.toList).map String.ofList

/-- Where the way along a path starts. -/
def start (tree : Tree) (path : String) : List String :=
  if path.toList.head? = some '/' then [] else tree.current

/-- Why a way cannot end or go on at a name where no directory is: a slash behind the
last name says that it is a directory, and otherwise `cause` is the reason. -/
def obstacle (cause : String) (rest : List String) : String :=
  if !rest.isEmpty && rest.all String.isEmpty then Disk.isDirectory else cause

/-- The place that parts of a path lead to from a directory, and what stands
there.  Only the last part may be missing or a file, and not if a slash behind it
says that it is a directory. -/
def walk (tree : Tree) (place : List String) :
    List String → Except String (List String × Option Node)
  | [] => .ok (place, some .directory)
  | "" :: rest => tree.walk place rest
  | "." :: rest => tree.walk place rest
  | ".." :: rest => tree.walk place.dropLast rest
  | name :: rest =>
      match tree.node? (place ++ [name]) with
      | some .directory => tree.walk (place ++ [name]) rest
      | some (.file text) =>
          if rest.isEmpty then .ok (place ++ [name], some (.file text))
          else .error (obstacle Disk.noDirectory rest)
      | none =>
          if Disk.isTooLong name then .error (obstacle Disk.nameTooLong rest)
          else if rest.isEmpty then .ok (place ++ [name], none)
          else .error (obstacle Disk.noEntry rest)

def find (tree : Tree) (path : String) : Except String (List String × Option Node) :=
  match Disk.fault? path with
  | some fault => .error fault
  | none => tree.walk (tree.start path) (parts path)

/-- Makes every directory that is missing on a way, up to an obstacle.
Once a directory had to be `made`, each further name is made in its turn, so that a
file is met where a directory should be; otherwise it is met on the way, unless it
has the last name. -/
def makeAlong (tree : Tree) (place : List String) (made : Bool) :
    List String → Except String Unit × Tree
  | [] => (.ok (), tree)
  | "" :: rest => tree.makeAlong place made rest
  | "." :: rest => tree.makeAlong place made rest
  | ".." :: rest => tree.makeAlong place.dropLast made rest
  | name :: rest =>
      match tree.node? (place ++ [name]) with
      | some .directory => tree.makeAlong (place ++ [name]) made rest
      | some (.file _) =>
          (.error (if made || rest.isEmpty then Disk.entryExists else Disk.noDirectory), tree)
      | none =>
          if Disk.isTooLong name then (.error Disk.nameTooLong, tree)
          else (tree.put (place ++ [name]) .directory).makeAlong (place ++ [name]) true rest

/-- The text at the end of a path, or nothing if the path leads nowhere. -/
def read (tree : Tree) (path : String) : Except String (Option String) :=
  match tree.find path with
  | .ok (_, some (.file text)) => .ok (some text)
  | .ok (_, some .directory) => .error Disk.isDirectory
  | .ok (_, none) => .ok none
  | .error _ => .ok none

/-- Makes a directory.  What could be made stays, even if something is in the way of
the rest. -/
def createDirectory (tree : Tree) (path : String) : Except String Unit × Tree :=
  match Disk.fault? path with
  | some fault => (.error fault, tree)
  | none => tree.makeAlong (tree.start path) false (parts path)

def write (tree : Tree) (path text : String) : Except String Tree :=
  match tree.find path with
  | .error detail => .error detail
  | .ok (_, some .directory) => .error Disk.isDirectory
  | .ok (place, _) => .ok (tree.put place (.file text))

/-- The files below a directory, by the names on the way from there. -/
def files (tree : Tree) (directory : List String) : List (List String × String) :=
  tree.nodes.filterMap fun (place, node) =>
    match node with
    | .directory => none
    | .file text =>
        if directory.isPrefixOf place then some (place.drop directory.length, text) else none

def disk : Disk (StateM Tree) where
  read path := return (← get).read path
  createDirectory path := modifyGet (·.createDirectory path)
  write path text := modifyGet fun tree =>
    match tree.write path text with
    | .error detail => (.error detail, tree)
    | .ok changed => (.ok (), changed)

end Tree

end IssueQuery
