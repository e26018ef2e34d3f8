import IssueQuery.Command.Run
import IssueQuery.Disk.Tree
import IssueQuery.Service.Script

namespace IssueQuery

/-! Machines in memory: files in a tree, and a service that follows a script.  What is
written there is kept. -/

structure Machine where
  tree : Tree := {}
  script : Script := {}
deriving Inhabited

namespace Machine

def onTree {α : Type} (action : StateM Tree α) : StateM Machine α := fun machine =>
  let (result, tree) := action.run machine.tree
  (result, { machine with tree })

def onScript {α : Type} (action : StateM Script α) : StateM Machine α := fun machine =>
  let (result, script) := action.run machine.script
  (result, { machine with script })

/-- The machine as commands see it, with a way to the service.  Sums are checked, and a
search is followed through so many pages. -/
def host (network : Transport (StateM Script)) (pages : Nat) : Host (StateM Machine) where
  disk := {
    read := fun path => onTree (Tree.disk.read path)
    createDirectory := fun path => onTree (Tree.disk.createDirectory path)
    write := fun path text => onTree (Tree.disk.write path text) }
  transport := {
    exchange := fun request => onScript (network.exchange request)
    pause := fun seconds => onScript (network.pause seconds) }
  arithmetic := .checked
  pages := pages

end Machine

/-- What has been written, piece by piece. -/
structure Written where
  printed : List String := []
  reported : List String := []
deriving DecidableEq, Repr, Inhabited

def Written.console {m : Type → Type} [Monad m] : Console (StateT Written m) where
  print text := modify fun written => { written with printed := written.printed ++ [text] }
  report text := modify fun written => { written with reported := written.reported ++ [text] }

/-- What a command leaves behind. -/
structure Outcome where
  ended : Except Halt ExitStatus
  output : String
  diagnostics : String

def CommandLine.run {m : Type → Type} [Monad m] (host : Host m) (environment : Environment)
    (line : CommandLine) : m Outcome := do
  let (ended, written) ← ((line.perform host Written.console environment).run.run {} : m _)
  return {
    ended
    output := String.join written.printed
    diagnostics := String.join written.reported }

end IssueQuery
