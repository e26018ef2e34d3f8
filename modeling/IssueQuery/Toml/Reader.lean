import IssueQuery.Toml.Scalar
import IssueQuery.Toml.Text

namespace IssueQuery.Toml

/-! Reading settings files. -/

def skipSpace (characters : List Char) : List Char := characters.dropWhile isSpace

def skipComment : List Char → List Char
  | '#' :: rest => rest.dropWhile (!isControl ·)
  | characters => characters

/-- What follows the end of a line, in front of which a comment may stand. -/
def dropLineEnd? (characters : List Char) : Option (List Char) :=
  match skipComment (skipSpace characters) with
  | [] => some []
  | '\n' :: rest => some rest
  | '\r' :: '\n' :: rest => some rest
  | _ => none

/-- Skips spaces, comments and line breaks.  Of every two steps one moves
forward, so the length of the text is enough as `fuel`. -/
def skipGap : (fuel : Nat) → List Char → List Char
  | 0, characters => characters
  | fuel + 1, characters =>
      match skipComment (skipSpace characters) with
      | '\n' :: rest => skipGap fuel rest
      | '\r' :: '\n' :: rest => skipGap fuel rest
      | rest => rest

def isBareChar (character : Char) : Bool :=
  character.isAlphanum || character == '-' || character == '_'

/-- Reads one part of a name: bare, or in quotation marks or apostrophes. -/
def readPart? : List Char → Option (String × List Char)
  | '"' :: rest => (readBasic? rest).map fun (text, remaining) => (String.ofList text, remaining)
  | '\'' :: rest =>
      (readLiteral? rest).map fun (text, remaining) => (String.ofList text, remaining)
  | characters =>
      match characters.takeWhile isBareChar with
      | [] => none
      | word => some (String.ofList word, characters.dropWhile isBareChar)

/-- How many values may be nested, and how many parts a name may have. -/
def depthLimit : Nat := 79

/-- Reads a name of one or more parts with points between them, and the spaces
around it. -/
def readName? : (fuel : Nat) → List Char → Option (List String × List Char)
  | 0, _ => none
  | fuel + 1, characters =>
      match readPart? (skipSpace characters) with
      | none => none
      | some (part, behind) =>
          match skipSpace behind with
          | '.' :: rest =>
              (readName? fuel rest).map fun (parts, remaining) => (part :: parts, remaining)
          | rest => some ([part], rest)

/-- A name by its last part and those in front of it. -/
def splitName (parts : List String) : List String × String :=
  (parts.dropLast, parts.getLast?.getD "")

mutual

/-- Reads a value.  `fuel` falls at each call, and of three calls in a row one
starts behind a character that was read; `room` is how many arrays and tables
may still be entered. -/
def readValue? (fuel room : Nat) (characters : List Char) : Option (Toml × List Char) :=
  match fuel with
  | 0 => none
  | fuel + 1 =>
      match characters with
      | '[' :: rest =>
          if room = 0 then none
          else
            (readItems? fuel (room - 1) rest).map fun (items, remaining) =>
              (.array items, remaining)
      | '\x7b' :: rest =>
          if room = 0 then none
          else
            match skipSpace rest with
            | '\x7d' :: remaining => some (.table .literal [], remaining)
            | inner =>
                (readEntries? fuel (room - 1) [] inner).map fun (entries, remaining) =>
                  (.table .literal entries, remaining)
      | '"' :: _ => (readText? characters).map fun (text, rest) => (.string (String.ofList text), rest)
      | '\'' :: _ => (readText? characters).map fun (text, rest) => (.string (String.ofList text), rest)
      | _ => readScalar? characters

/-- Reads the items of an array up to its closing bracket.  A comma may follow
the last one. -/
def readItems? (fuel room : Nat) (characters : List Char) : Option (List Toml × List Char) :=
  match fuel with
  | 0 => none
  | fuel + 1 =>
      match skipGap characters.length characters with
      | ']' :: rest => some ([], rest)
      | inner =>
          match readValue? fuel room inner with
          | none => none
          | some (item, behind) =>
              match skipGap behind.length behind with
              | ']' :: rest => some ([item], rest)
              | ',' :: rest =>
                  (readItems? fuel room rest).map fun (items, remaining) =>
                    (item :: items, remaining)
              | _ => none

/-- Reads the entries of a table that is written as a value, up to its closing
brace, and adds them to those read before. -/
def readEntries? (fuel room : Nat) (entries : Entries) (characters : List Char) :
    Option (Entries × List Char) :=
  match fuel with
  | 0 => none
  | fuel + 1 =>
      match readName? characters.length characters with
      | some (parts, '=' :: behindName) =>
          if depthLimit < parts.length then none
          else
            match readValue? fuel room (skipSpace behindName) with
            | none => none
            | some (value, behindValue) =>
                let (path, name) := splitName parts
                match insertDotted? path name value true entries with
                | none => none
                | some entries =>
                    match skipSpace behindValue with
                    | '\x7d' :: rest => some (entries, rest)
                    | ',' :: rest => readEntries? fuel room entries rest
                    | _ => none
      | _ => none

end

/-- Reads the name in a header behind its opening brackets, and what must close
it. -/
def readHeader? (closing : List Char) (characters : List Char) :
    Option (List String × List Char) :=
  match readName? characters.length characters with
  | none => none
  | some (parts, rest) =>
      if closing.isPrefixOf rest && decide (parts.length ≤ depthLimit) then
        (dropLineEnd? (rest.drop closing.length)).map (parts, ·)
      else none

/-- Reads the lines of a document.  Entries belong to the table whose header was
read last. -/
def readLines? : (fuel : Nat) → (header : List String) → Entries → List Char → Option Entries
  | 0, _, _, _ => none
  | fuel + 1, header, entries, characters =>
      match skipSpace characters with
      | [] => some entries
      | '\n' :: rest => readLines? fuel header entries rest
      | '\r' :: '\n' :: rest => readLines? fuel header entries rest
      | '#' :: rest =>
          match dropLineEnd? ('#' :: rest) with
          | none => none
          | some rest => readLines? fuel header entries rest
      | '[' :: '[' :: rest =>
          match readHeader? [']', ']'] rest with
          | none => none
          | some (parts, rest) =>
              let (path, name) := splitName parts
              match modifyAt? path (startMember? name) entries with
              | none => none
              | some entries => readLines? fuel parts entries rest
      | '[' :: rest =>
          match readHeader? [']'] rest with
          | none => none
          | some (parts, rest) =>
              let (path, name) := splitName parts
              match modifyAt? path (startTable? name) entries with
              | none => none
              | some entries => readLines? fuel parts entries rest
      | line =>
          match readName? line.length line with
          | some (parts, '=' :: behindName) =>
              if depthLimit < parts.length then none
              else
                match readValue? (3 * line.length) depthLimit (skipSpace behindName) with
                | none => none
                | some (value, behindValue) =>
                    let (path, name) := splitName parts
                    match modifyAt? header (insertDotted? path name value true) entries,
                        dropLineEnd? behindValue with
                    | some entries, some rest => readLines? fuel header entries rest
                    | _, _ => none
          | _ => none

/-- Reads a document.  A byte-order mark in front of it is skipped. -/
def ofText? (text : String) : Option Entries :=
  let characters :=
    match text.toList with
    | '\ufeff' :: rest => rest
    | all => all
  readLines? (characters.length + 1) [] [] characters

end IssueQuery.Toml
