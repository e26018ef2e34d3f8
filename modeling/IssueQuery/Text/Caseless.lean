namespace IssueQuery.Text

/-! Comparison without regard to case.  Only the 26 ASCII letters have a case
here; every other character is compared as it is. -/

/-- The text with its ASCII letters in lower case. -/
def lower (text : String) : String :=
  String.ofList (text.toList.map Char.toLower)

/-- Whether two texts agree once the case of ASCII letters is forgotten. -/
def sameIgnoringCase (left right : String) : Bool :=
  lower left == lower right

theorem sameIgnoringCase_iff {left right : String} :
    sameIgnoringCase left right = true ↔ lower left = lower right := by
  simp [sameIgnoringCase]

end IssueQuery.Text
