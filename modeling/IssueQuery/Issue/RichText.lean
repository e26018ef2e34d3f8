import IssueQuery.Json.Decode
import IssueQuery.Json.Printer
import IssueQuery.Issue.Basic

namespace IssueQuery

/-! Rich text: documents as trees of typed nodes, and the plain text in them. -/

/-- A node of a rich-text document.  The document itself is a node. -/
structure RichText where
  type : String := ""
  text : Option String := none
  content : List RichText := []
deriving Repr, Inhabited

namespace RichText

def blockTypes : List String := ["paragraph", "heading", "listItem"]

def lineEnd (type : String) : List Char :=
  if blockTypes.contains type then ['\n'] else []

mutual

/-- The text of a node, then that of its content, then the end of the line if
the node ends one. -/
def plainChars : RichText → List Char
  | ⟨type, text, content⟩ => (text.getD "").toList ++ contentChars content ++ lineEnd type

def contentChars : List RichText → List Char
  | [] => []
  | node :: rest => plainChars node ++ contentChars rest

end

def plainText (node : RichText) : String := String.ofList node.plainChars

def fieldNames : List String := ["type", "text", "content"]

/-- Decodes a node whose content is nested at most `fuel` levels. -/
def decodeWithin? : Nat → Json.Source → Option RichText
  | 0, _ => none
  | fuel + 1, source => do
      let fields ← source.fields? fieldNames
      let type ← Json.Source.fieldD? fields "type" Json.Source.string? ""
      let text ←
        Json.Source.fieldD? fields "text" (Json.Source.optional? Json.Source.string?) none
      let content ←
        Json.Source.fieldD? fields "content" (Json.Source.list? (decodeWithin? fuel)) []
      return ⟨type, text, content⟩

def ofSource? (source : Json.Source) : Option RichText :=
  decodeWithin? (source.depth + 1) source

mutual

def toJson : RichText → Json
  | ⟨type, text, content⟩ =>
      .object
        [("type", .string type), ("text", Json.ofOption .string text),
          ("content", .array (contentToJson content))]

def contentToJson : List RichText → List Json
  | [] => []
  | node :: rest => toJson node :: contentToJson rest

end

end RichText

/-- The description as plain text.  A text stands for itself, a rich-text
document is flattened, and any other value is shown as its JSON text. -/
def Issue.descriptionText (issue : Issue) : Option String :=
  match issue.details.description with
  | none => none
  | some .null => none
  | some (.string text) => some text
  | some other =>
      match RichText.ofSource? other.toSource with
      | some document => some document.plainText
      | none => some other.sorted.compact

end IssueQuery
