import IssueQuery.Failure.Envelope
import IssueQuery.Proofs.FaultPlaces

namespace IssueQuery

/-! Faults without a piece of text.

A fault shows the piece of text that it blames.  At the end of the text there is none, and
messages take a piece without characters for the end.  But the piece of a quoted text is what
it stands for, and empty quotation marks stand for nothing.
-/

/-- Whether a piece of text stands at a position. -/
def StandsAt (piece text : String) (position : Nat) : Prop :=
  ∃ before behind, text = before ++ piece ++ behind ∧ before.utf8ByteSize = position

/-- Two quotation marks with nothing between them. -/
def emptyQuotes : String := "\"\""

section Positions

variable {before behind otherBefore otherBehind : List Char} {text : String} {position : Nat}

theorem eq_nil_of_byteLength {characters : List Char} (none : byteLength characters = 0) :
    characters = [] := by
  cases characters with
  | nil => rfl
  | cons character rest =>
      have some := character.utf8Size_pos
      rw [byteLength_cons] at none
      omega

/-- A text is split in one way at a position. -/
theorem split_unique (same : before ++ behind = otherBefore ++ otherBehind)
    (length : byteLength before = byteLength otherBefore) :
    before = otherBefore ∧ behind = otherBehind := by
  induction before generalizing otherBefore with
  | nil =>
      obtain rfl := eq_nil_of_byteLength length.symm
      exact ⟨rfl, same⟩
  | cons character rest ih =>
      cases otherBefore with
      | nil => cases eq_nil_of_byteLength length
      | cons other others =>
          simp only [List.cons_append, List.cons.injEq] at same
          obtain ⟨rfl, same⟩ := same
          rw [byteLength_cons, byteLength_cons] at length
          obtain ⟨rfl, rest⟩ := ih same (by omega)
          exact ⟨rfl, rest⟩

theorem position_eq_length_iff (split : text.toList = before ++ behind)
    (length : position = byteLength before) : position = text.utf8ByteSize ↔ behind = [] := by
  rw [← byteLength_toList, split, byteLength_append, length]
  constructor
  · intro same
    exact eq_nil_of_byteLength (by omega)
  · intro none
    rw [none]
    rfl

theorem standsAt_emptyQuotes_iff (split : text.toList = before ++ behind)
    (length : position = byteLength before) :
    StandsAt emptyQuotes text position ↔ ∃ rest, behind = '"' :: '"' :: rest := by
  constructor
  · intro stands
    obtain ⟨front, back, whole, place⟩ := stands
    refine ⟨back.toList, ?_⟩
    have parts : before ++ behind = front.toList ++ ('"' :: '"' :: back.toList) := by
      rw [← split, whole]
      simp [emptyQuotes]
    refine (split_unique parts ?_).2
    rw [byteLength_toList, place, length]
  · intro quotes
    obtain ⟨rest, rfl⟩ := quotes
    refine ⟨String.ofList before, String.ofList rest, ?_, ?_⟩
    · rw [← String.toList_inj, split]
      simp [emptyQuotes]
    · rw [← byteLength_eq, length]

end Positions

/-- Only empty quotation marks are written as a token without a text. -/
theorem Token.text_eq_empty_iff {token : Token} (writable : token.Writable) (rest : List Char) :
    token.text = "" ↔ ∃ others, token.written ++ rest = '"' :: '"' :: others := by
  cases token with
  | word text =>
      obtain ⟨nonempty, parts⟩ := writable
      refine iff_of_false (fun empty => nonempty (by simpa [Token.text] using empty)) ?_
      intro quotes
      obtain ⟨others, written⟩ := quotes
      obtain ⟨first, more, shape⟩ := List.exists_cons_of_ne_nil nonempty
      simp only [Token.written, shape, List.cons_append, List.cons.injEq] at written
      have isPart := parts first (shape ▸ List.mem_cons_self)
      rw [written.1] at isPart
      revert isPart
      decide
  | mark sign =>
      refine iff_of_false ?_ ?_
      · cases sign <;> decide
      · intro quotes
        obtain ⟨others, written⟩ := quotes
        have isQuote : sign.char = '"' := (List.cons.inj written).1
        revert isQuote
        cases sign <;> decide
  | quoted text =>
      obtain ⟨characters, rfl⟩ := text.exists_eq_ofList
      simp only [Token.text, Token.written, String.toList_ofList]
      cases characters with
      | nil => simp
      | cons character more =>
          refine iff_of_false (by simp [← String.toList_inj]) ?_
          intro quotes
          obtain ⟨others, written⟩ := quotes
          by_cases isQuote : character = '"' <;>
            simp [escapeQuote, isQuote] at written

theorem Token.written_ne_nil {token : Token} (writable : token.Writable) : token.written ≠ [] := by
  cases token with
  | word text => exact writable.1
  | mark sign => simp [Token.written]
  | quoted text => simp [Token.written]

/-- What has no token is blamed with some piece, and is no pair of empty quotation marks. -/
theorem Unreadable.lexeme_ne_empty {behind : List Char} {lexeme : String}
    (unreadable : Unreadable behind lexeme) :
    lexeme ≠ "" ∧ behind ≠ [] ∧ ∀ rest, behind ≠ '"' :: '"' :: rest := by
  cases unreadable with
  | @character character rest startsNothing =>
      refine ⟨by simp [← String.toList_inj], by simp, ?_⟩
      intro others quotes
      have head := startsNothing.2 (.quoted "") (by simp [Token.Writable])
      simp only [List.cons.injEq] at quotes
      exact head (by simp [Token.written, quotes.1])
  | @quotationMark rest unclosed =>
      refine ⟨by simp [← String.toList_inj], by simp, ?_⟩
      intro others quotes
      simp only [List.cons.injEq, true_and] at quotes
      have escaped := unclosed [] others quotes
      cases escaped

/-- Whether a fault has no piece of text just at the end of a text and in front of empty
quotation marks. -/
def SyntaxError.NamesPiece (fault : SyntaxError) (text : String) : Prop :=
  fault.lexeme = "" ↔
    fault.position = text.utf8ByteSize ∨ StandsAt emptyQuotes text fault.position

theorem namesPiece_of_token {layout : Layout} (wellFormed : layout.WellFormed) {text : String}
    (characters : layout.characters = text.toList) {token : Token} {position : Nat}
    (member : ⟨token, position⟩ ∈ layout.tokensFrom 0) (cause : SyntaxCause) :
    SyntaxError.NamesPiece ⟨cause, position, token.text⟩ text := by
  have writable : token.Writable := wellFormed.writable_token (List.mem_map_of_mem member)
  obtain ⟨before, behind, split, place⟩ := layout.exists_split 0 member
  rw [characters] at split
  rw [Nat.zero_add] at place
  have notAtEnd : ¬ position = text.utf8ByteSize := by
    rw [position_eq_length_iff split place]
    intro none
    exact Token.written_ne_nil writable (List.append_eq_nil_iff.mp none).1
  simp only [SyntaxError.NamesPiece, notAtEnd, false_or]
  rw [standsAt_emptyQuotes_iff split place, Token.text_eq_empty_iff writable behind]

theorem namesPiece_of_scan_error {text : String} {fault : SyntaxError}
    (unscanned : scan text = .error fault) : fault.NamesPiece text := by
  obtain ⟨before, behind, rfl, length, -, unreadable⟩ := exists_append_of_scan_error unscanned
  obtain ⟨some, more, noQuotes⟩ := unreadable.lexeme_ne_empty
  have split : (before ++ behind).toList = before.toList ++ behind.toList := by simp
  have place : fault.position = byteLength before.toList := by rw [byteLength_toList, length]
  refine iff_of_false some ?_
  rw [position_eq_length_iff split place, standsAt_emptyQuotes_iff split place]
  intro found
  rcases found with atEnd | ⟨rest, quotes⟩
  · exact more atEnd
  · exact noQuotes rest quotes

theorem Query.namesPiece_of_parse_error {text : String} {fault : SyntaxError}
    (failed : Query.parse text = .error fault) : fault.NamesPiece text := by
  cases scanned : scan text with
  | error cause =>
      obtain rfl := Except.error.inj ((parse_of_scan_error scanned).symm.trans failed)
      exact namesPiece_of_scan_error scanned
  | ok located =>
      have breaks := breaksOff_of_parse_error scanned failed
      obtain ⟨layout, wellFormed, characters, rfl⟩ := scan_eq_ok_iff.mp scanned
      cases breaks with
      | token ordinary split viable dead =>
          have member := split ▸ List.mem_append_right _ List.mem_cons_self
          exact namesPiece_of_token wellFormed characters member _
      | finish ordinary viable unfinished => exact iff_of_true rfl (.inl rfl)
      | braces split viable dead =>
          have member := split ▸ List.mem_append_right _ List.mem_cons_self
          exact namesPiece_of_token wellFormed characters member _

/-- Messages show no piece of text as the end. -/
theorem QueryError.describeLexeme_eq_describeEnd_iff (lexeme : String) :
    describeLexeme lexeme = describeEnd ↔ lexeme = "" := by
  unfold describeLexeme
  split
  · rename_i empty
    exact iff_of_true rfl empty
  · rename_i some
    refine iff_of_false ?_ some
    intro same
    have firsts := congrArg (fun text : String => text.toList.head?) same
    simp [describeEnd] at firsts

theorem Report.details_ofSyntax (fault : SyntaxError) :
    (Report.ofQueryError (.ofSyntax fault)).details =
      some (.object [("lexeme", .string fault.lexeme), ("position", .ofNat fault.position)]) := by
  have before : "lexeme" < "position" := by decide
  simp [Report.ofQueryError, Report.detailsOf, QueryError.ofSyntax, QueryError.root,
    Json.sortMembers, Json.insertSorted, before]

/-- The piece of text that a fault blames is empty at the end of the text and in front of empty
quotation marks.  Just then its message says that it is near the end, and its details hold the
piece as it is. -/
theorem Query.lexeme_empty_at_end_and_emptyQuotes {text : String} {fault : SyntaxError}
    (failed : Query.parse text = .error fault) :
    (fault.lexeme = "" ↔
      fault.position = text.utf8ByteSize ∨ StandsAt emptyQuotes text fault.position) ∧
    (QueryError.describeLexeme fault.lexeme = describeEnd ↔ fault.lexeme = "") ∧
    (Report.ofQueryError (.ofSyntax fault)).details =
      some (.object [("lexeme", .string fault.lexeme), ("position", .ofNat fault.position)]) := by
  exact ⟨namesPiece_of_parse_error failed, QueryError.describeLexeme_eq_describeEnd_iff _,
    Report.details_ofSyntax fault⟩

/-- A quoted text where the closing parenthesis should be, behind a character of two bytes, and
the end where it should be. -/
theorem Query.quotes_and_end_blamed :
    Query.parse "get(\"é\" \"\")" =
        .error ⟨.unmet .closeParen (some (.quoted "")), 9, ""⟩ ∧
      StandsAt emptyQuotes "get(\"é\" \"\")" 9 ∧
      Query.parse "get(\"é\" \"x\")" =
        .error ⟨.unmet .closeParen (some (.quoted "x")), 9, "x"⟩ ∧
      ¬ StandsAt emptyQuotes "get(\"é\" \"x\")" 9 ∧
      Query.parse "get(\"é\"" = .error ⟨.unmet .closeParen none, 8, ""⟩ ∧
      "get(\"é\"".utf8ByteSize = 8 := by
  have ofEmpty : Query.parse "get(\"é\" \"\")" =
      .error ⟨.unmet .closeParen (some (.quoted "")), 9, ""⟩ := by decide +kernel
  have ofText : Query.parse "get(\"é\" \"x\")" =
      .error ⟨.unmet .closeParen (some (.quoted "x")), 9, "x"⟩ := by decide +kernel
  have ofEnd : Query.parse "get(\"é\"" = .error ⟨.unmet .closeParen none, 8, ""⟩ := by
    decide +kernel
  refine ⟨ofEmpty, ?_, ofText, ?_, ofEnd, by decide⟩
  · have places := (lexeme_empty_at_end_and_emptyQuotes ofEmpty).1.mp rfl
    exact places.resolve_left (by decide)
  · intro stands
    have empty := (lexeme_empty_at_end_and_emptyQuotes ofText).1.mpr (.inr stands)
    revert empty
    decide

/-- Empty quotation marks in the middle of a text are reported as its end. -/
theorem Query.emptyQuotes_reported_as_end :
    Query.parse "list(project=A \"\")" =
        .error ⟨.unmet .closeParen (some (.quoted "")), 15, ""⟩ ∧
      (QueryError.ofSyntax ⟨.unmet .closeParen (some (.quoted "")), 15, ""⟩).message =
        "syntax error at position 15 near end of input: expected ')', found string" ∧
      "list(project=A \"\")".utf8ByteSize = 18 := by
  refine ⟨by decide +kernel, by decide +kernel, by decide⟩

end IssueQuery
