namespace IssueQuery

/-! Where files are kept.  A failure is described by the system's own words. -/

structure Disk (m : Type → Type) where
  /-- The text of a file, or nothing if there is no file. -/
  read : (path : String) → m (Except String (Option String))
  /-- Creates a directory, and those above it, where they are missing. -/
  createDirectory : (path : String) → m (Except String Unit)
  /-- Gives a file a text, whatever it held before. -/
  write : (path text : String) → m (Except String Unit)

namespace Disk

def noEntry : String := "No such file or directory (os error 2)"

def noPermission : String := "Permission denied (os error 13)"

def entryExists : String := "File exists (os error 17)"

def noDirectory : String := "Not a directory (os error 20)"

def isDirectory : String := "Is a directory (os error 21)"

def nameTooLong : String := "File name too long (os error 36)"

/-- A path ends at its first NUL, so that none may stand inside. -/
def unexpectedNul : String := "file name contained an unexpected NUL byte"

/-- The most bytes that a name in a directory may have. -/
def longestName : Nat := 255

/-- The most bytes that a path may have. -/
def longestPath : Nat := 4095

def isTooLong (name : String) : Bool := longestName < name.utf8ByteSize

/-- What is wrong with a path, wherever it may lead. -/
def fault? (path : String) : Option String :=
  if path.toList.contains '\x00' then some unexpectedNul
  else if longestPath < path.utf8ByteSize then some nameTooLong
  else none

/-- Drops slashes at the end of a path, and points that stand for the directory
itself.  The path is given from its end. -/
def dropTrailing : List Char → List Char
  | '/' :: rest => dropTrailing rest
  | '.' :: '/' :: rest => dropTrailing rest
  | path => path

/-- The directory that holds what a path leads to; none is named by a path of one
part. -/
def directory? (path : String) : Option String :=
  let reversed := dropTrailing path.toList.reverse
  match dropTrailing (reversed.dropWhile (· != '/')) with
  | [] => if path.toList.head? = some '/' ∧ reversed ≠ [] then some "/" else none
  | directory => some (String.ofList directory.reverse)

/-- The path of something in a directory.  A path from the root on leads to the same
place from everywhere. -/
def join (directory name : String) : String :=
  if name.toList.head? = some '/' then name
  else if directory.toList.getLast? = some '/' then directory ++ name
  else directory ++ "/" ++ name

end Disk

end IssueQuery
