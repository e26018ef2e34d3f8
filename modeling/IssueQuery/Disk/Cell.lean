import IssueQuery.Disk.Basic

namespace IssueQuery.Disk

/-! A disk with room for one file, to which every path leads.  It never fails. -/

def cell : Disk (StateM (Option String)) where
  read _ := return .ok (← get)
  createDirectory _ := return .ok ()
  write _ text := do
    set (some text)
    return .ok ()

end IssueQuery.Disk
