import IssueQuery.Proofs.Printing
import IssueQuery.Proofs.Slices
import IssueQuery.Proofs.Viability

namespace IssueQuery

/-! The places of faults.

The fault of a text that is no query stands where the text breaks off: either what is in
front of it has tokens and no token follows, or the tokens in front of it are the start of a
query and with the next one they are not.
-/

/-- Whether a character starts neither a gap nor a token. -/
def StartsNothing (character : Char) : Prop :=
  Text.isBlank character = false ∧
    ∀ token : Token, token.Writable → token.written.head? ≠ some character

/-- Whether no quotation mark closes a text: each has a backslash in front. -/
def Unclosed (characters : List Char) : Prop :=
  ∀ earlier later, characters = earlier ++ '"' :: later → earlier.getLast? = some '\\'

/-- Where a text has no token: at a character that starts none, which is blamed, or at a
quotation mark that is not closed, which is blamed with all that follows. -/
inductive Unreadable : List Char → String → Prop
  | character {character : Char} {rest : List Char} (startsNothing : StartsNothing character) :
      Unreadable (character :: rest) (String.singleton character)
  | quotationMark {rest : List Char} (unclosed : Unclosed rest) :
      Unreadable ('"' :: rest) (String.ofList ('"' :: rest))

theorem startsNothing {character : Char} (notBlank : Text.isBlank character = false)
    (noMark : Mark.ofChar? character = none) (notQuote : character ≠ '"')
    (notPart : isWordChar character = false) : StartsNothing character := by
  refine ⟨notBlank, fun token writable head => ?_⟩
  cases token with
  | word text =>
      obtain ⟨nonempty, parts⟩ := writable
      rw [parts character (List.mem_of_mem_head? head)] at notPart
      cases notPart
  | mark sign =>
      obtain rfl : sign.char = character := Option.some.inj head
      rw [sign.ofChar?_char] at noMark
      cases noMark
  | quoted text => exact notQuote (Option.some.inj head).symm

theorem unclosed_of_readQuoted? {characters : List Char}
    (unread : readQuoted? characters = none) : Unclosed characters := by
  fun_induction readQuoted? characters with
  | case1 => simp [Unclosed]
  | case2 rest => cases unread
  | case3 rest ih =>
      have inner := ih (Option.map_eq_none_iff.mp unread)
      rintro (_ | ⟨first, _ | ⟨second, earlier⟩⟩) later split
      · cases split
      · cases split
        rfl
      · simp only [List.cons_append, List.cons.injEq] at split
        have last := inner earlier later split.2.2
        rw [List.getLast?_cons, List.getLast?_cons, last]
        rfl
  | case4 character rest notQuote notEscape ih =>
      have inner := ih (Option.map_eq_none_iff.mp unread)
      rintro (_ | ⟨first, earlier⟩) later split
      · simp only [List.nil_append, List.cons.injEq] at split
        exact absurd split.1 notQuote
      · simp only [List.cons_append, List.cons.injEq] at split
        rw [List.getLast?_cons, inner earlier later split.2]
        rfl

/-- The characters from a position on have tokens up to the place of a fault. -/
def ScannedTo (position : Nat) (characters : List Char) (fault : SyntaxError) : Prop :=
  ∃ before behind, characters = before ++ behind ∧
    fault.position = position + byteLength before ∧
    (∃ located, scanFrom position before = .ok located) ∧ Unreadable behind fault.lexeme

variable {position : Nat} {characters rest : List Char} {fault : SyntaxError}

theorem ScannedTo.here {cause : SyntaxCause} {lexeme : String}
    (unreadable : Unreadable characters lexeme) :
    ScannedTo position characters ⟨cause, position, lexeme⟩ :=
  ⟨[], characters, rfl, rfl, ⟨[], by rw [scanFrom]⟩, unreadable⟩

theorem ScannedTo.written {token : Token} (writable : token.Writable)
    (apart : token.isWord = true → ∀ character ∈ rest.head?, isWordChar character = false)
    (behind : ScannedTo (position + byteLength token.written) rest fault) :
    ScannedTo position (token.written ++ rest) fault := by
  obtain ⟨before, behind, rfl, place, ⟨located, scanned⟩, unreadable⟩ := behind
  refine ⟨token.written ++ before, behind, by simp, ?_, ?_, unreadable⟩
  · rw [place, byteLength_append, Nat.add_assoc]
  · have stillApart : token.isWord = true →
        ∀ character ∈ before.head?, isWordChar character = false := by
      intro isWord character head
      refine apart isWord character ?_
      rw [List.head?_append, Option.mem_def.mp head]
      rfl
    rw [scanFrom_written writable stillApart, scanned]
    exact ⟨_, rfl⟩

theorem scannedTo_of_error (failed : scanFrom position characters = .error fault) :
    ScannedTo position characters fault := by
  fun_induction scanFrom position characters with
  | case1 => cases failed
  | case2 position character rest blank ih =>
      obtain ⟨before, behind, rfl, place, scanned, unreadable⟩ := ih failed
      refine ⟨character :: before, behind, rfl, ?_, ?_, unreadable⟩
      · rw [place, byteLength_cons, Nat.add_assoc]
      · rwa [scanFrom, if_pos blank]
  | case3 position character rest notBlank sign found ih =>
      have behind := ih (map_eq_error_iff.mp failed)
      rw [← Mark.char_of_ofChar? found] at behind ⊢
      have whole : ScannedTo position ((Token.mark sign).written ++ rest) fault :=
        .written trivial (by simp [Token.isWord]) (by simpa [Token.written] using behind)
      exact whole
  | case4 position rest unread notBlank noMark =>
      cases failed
      exact .here (.quotationMark (unclosed_of_readQuoted? unread))
  | case5 position rest text width remaining quoted notBlank noMark ih =>
      have behind := ih (map_eq_error_iff.mp failed)
      obtain ⟨rfl, rfl, closed⟩ := readQuoted?_sound quoted
      have shape : '"' :: (text.flatMap escapeQuote ++ '"' :: remaining) =
          (Token.quoted (String.ofList text)).written ++ remaining := by
        simp [Token.written]
      rw [shape]
      refine ScannedTo.written (by simpa [Token.Writable] using closed)
        (by simp [Token.isWord]) ?_
      simpa [Token.written, Nat.add_assoc] using behind
  | case6 position character rest notBlank noMark notQuote isPart word ih =>
      have behind := ih (map_eq_error_iff.mp failed)
      have written : (Token.word (String.ofList word)).written = word := String.toList_ofList
      have shape : character :: rest =
          (Token.word (String.ofList word)).written ++ rest.dropWhile isWordChar := by
        rw [written, List.cons_append, List.takeWhile_append_dropWhile]
      rw [shape]
      exact ScannedTo.written (writable_word isPart rest)
        (fun _ => isWordChar_behind_word rest) (by rwa [written])
  | case7 position character rest notBlank noMark notQuote notPart =>
      cases failed
      exact .here (.character (startsNothing (by simpa using notBlank) noMark notQuote
        (by simpa using notPart)))

theorem Layout.exists_split (layout : Layout) (position : Nat) {entry : Located}
    (member : entry ∈ layout.tokensFrom position) :
    ∃ before behind, layout.characters = before ++ (entry.token.written ++ behind) ∧
      entry.position = position + byteLength before := by
  obtain ⟨lead, body⟩ := layout
  induction body generalizing lead position with
  | nil => cases member
  | cons first rest ih =>
      obtain ⟨token, gap⟩ := first
      have shape : Layout.characters ⟨lead, (token, gap) :: rest⟩ =
          lead ++ (token.written ++ Layout.characters ⟨gap, rest⟩) := by
        simp [Layout.characters]
      rcases List.mem_cons.mp member with rfl | later
      · exact ⟨lead, _, shape, rfl⟩
      · rw [byteLength_append, ← Nat.add_assoc] at later
        obtain ⟨before, behind, split, place⟩ := ih _ gap later
        refine ⟨lead ++ (token.written ++ before), behind, ?_, ?_⟩
        · rw [shape, split]
          simp
        · rw [place]
          simp [Nat.add_assoc]

/-- The tokens of a text that is a query. -/
def Acceptable (tokens : List Token) : Prop :=
  ∃ text tokenized query, tokenize text = .ok tokenized ∧ bare tokenized.tokens = tokens ∧
    Query.parse text = .ok query

/-- Tokens that can be continued to those of a query. -/
def Viable (tokens : List Token) : Prop := ∃ further, Acceptable (tokens ++ further)

/-- A blank behind every token keeps them apart. -/
def spaced (tokens : List Token) : Layout := ⟨[], tokens.map fun token => (token, [' '])⟩

theorem spaced_wellFormed {tokens : List Token} (writable : ∀ token ∈ tokens, token.Writable) :
    (spaced tokens).WellFormed where
  leadBlank := by simp [spaced]
  writable := by simpa [spaced] using writable
  gapsBlank := by simp [spaced, Text.isBlank_space]
  wordsApart := by
    refine List.Pairwise.isChain (List.pairwise_map.mpr (List.pairwise_of_forall ?_))
    simp

theorem acceptable_iff {tokens : List Token} :
    Acceptable tokens ↔ (∀ token ∈ tokens, token.Writable) ∧ tokens ∈ QueryTree.language := by
  constructor
  · rintro ⟨text, tokenized, query, split, rfl, parsed⟩
    obtain ⟨tree, ⟨same, sameSplit, tokens⟩, -⟩ := Query.parse_eq_ok_iff_derives.mp parsed
    obtain rfl : tokenized = same := Except.ok.inj (split.symm.trans sameSplit)
    obtain ⟨located, scanned, equal⟩ := bind_eq_ok_iff.mp split
    cases equal
    obtain ⟨layout, wellFormed, -, rfl⟩ := scan_eq_ok_iff.mp scanned
    exact ⟨fun token => wellFormed.writable_token, tree, tokens⟩
  · rintro ⟨writable, tree, rfl⟩
    obtain ⟨text, characters⟩ : ∃ text : String,
        (spaced tree.tokens).characters = text.toList := ⟨_, String.toList_ofList.symm⟩
    have scanned := scan_eq_ok_iff.mpr ⟨_, spaced_wellFormed writable, characters, rfl⟩
    have split : tokenize text = .ok ⟨_, text.utf8ByteSize⟩ :=
      bind_eq_ok_iff.mpr ⟨_, scanned, rfl⟩
    have shown : tree.tokens = bare ((spaced tree.tokens).tokensFrom 0) := by
      rw [Layout.bare_tokensFrom]
      simp [spaced, Function.comp_def]
    exact ⟨_, _, tree.query, split, shown.symm,
      Query.parse_eq_ok_iff_derives.mpr ⟨tree, ⟨_, split, shown⟩, rfl⟩⟩

theorem viable_of_completable {tokens : List Token}
    (writable : ∀ token ∈ tokens, token.Writable)
    (completable : Completable QueryTree.language tokens) : Viable tokens := by
  obtain ⟨further, furtherWritable, member⟩ := completable
  refine ⟨further, acceptable_iff.mpr ⟨fun token listed => ?_, member⟩⟩
  exact (List.mem_append.mp listed).elim (writable token) (furtherWritable token)

/-- What a fault points at in tokens: a token with which, or the end at which, they are no
longer the start of a query, or no query.  Of empty braces it is the opening one. -/
inductive BreaksOff (tokenized : Tokenized) : SyntaxError → Prop
  | token {cause : SyntaxCause} {token : Token} {position : Nat} {earlier later : List Located}
      (ordinary : cause ≠ .emptyProjection)
      (split : tokenized.tokens = earlier ++ ⟨token, position⟩ :: later)
      (viable : Viable (bare earlier)) (dead : ¬ Viable (bare earlier ++ [token])) :
      BreaksOff tokenized ⟨cause, position, token.text⟩
  | finish {cause : SyntaxCause} (ordinary : cause ≠ .emptyProjection)
      (viable : Viable (bare tokenized.tokens))
      (unfinished : ¬ Acceptable (bare tokenized.tokens)) :
      BreaksOff tokenized ⟨cause, tokenized.finish, ""⟩
  | braces {position closing : Nat} {earlier later : List Located}
      (split : tokenized.tokens =
        earlier ++ ⟨.mark .openBrace, position⟩ :: ⟨.mark .closeBrace, closing⟩ :: later)
      (viable : Viable (bare earlier ++ [.mark .openBrace]))
      (dead : ¬ Viable (bare earlier ++ [.mark .openBrace, .mark .closeBrace])) :
      BreaksOff tokenized ⟨.emptyProjection, position, Token.text (.mark .openBrace)⟩

/-- Tokens are no start of a query if the reader fails in front of all that goes on like them. -/
theorem not_viable {finish : Nat} {earlier : List Located} {head : Located}
    (fails : ∀ other : List Located, other.head? = some head →
      Query.ofTokens? finish (earlier ++ other) = .error fault) :
    ¬ Viable (bare earlier ++ [head.token]) := by
  rintro ⟨further, acceptable⟩
  obtain ⟨-, tree, shown⟩ := acceptable_iff.mp acceptable
  have continued : tree.tokens =
      bare (earlier ++ head :: further.map fun token => ⟨token, 0⟩) := by
    simpa [bare, Function.comp_def] using shown
  have read : Query.ofTokens? finish _ = _ :=
    Query.ofTokens?_eq_ok_iff.mpr ⟨tree, continued, rfl⟩
  rw [fails _ rfl] at read
  cases read

theorem breaksOff_of_error {tokenized : Tokenized}
    (writable : ∀ token ∈ bare tokenized.tokens, token.Writable)
    (failed : Query.ofTokens? tokenized.finish tokenized.tokens = .error fault) :
    BreaksOff tokenized fault := by
  obtain ⟨earlier, later, split, blames, completable, again⟩ := Query.ofTokens?_stops failed
  have viable : Viable (bare earlier) := by
    refine viable_of_completable (fun token member => writable token ?_) completable
    rw [split, bare_append]
    exact List.mem_append_left _ member
  cases blames with
  | token ordinary => exact .token ordinary split viable (not_viable again)
  | finish ordinary =>
      rw [List.append_nil] at split
      subst earlier
      refine .finish ordinary viable fun acceptable => ?_
      obtain ⟨-, tree, shown⟩ := acceptable_iff.mp acceptable
      rw [Query.ofTokens?_eq_ok_iff.mpr ⟨tree, shown, rfl⟩] at failed
      cases failed
  | braces =>
      rw [List.append_assoc] at split
      rw [bare_append] at viable
      have dead := not_viable again
      rw [bare_append, List.append_assoc] at dead
      exact .braces split viable dead

theorem BreaksOff.place {tokenized : Tokenized} (breaks : BreaksOff tokenized fault) :
    fault.position = tokenized.finish ∨
      ∃ entry ∈ tokenized.tokens, entry.position = fault.position := by
  cases breaks with
  | token ordinary split viable dead =>
      exact .inr ⟨_, split ▸ List.mem_append_right _ List.mem_cons_self, rfl⟩
  | finish ordinary viable unfinished => exact .inl rfl
  | braces split viable dead =>
      exact .inr ⟨_, split ▸ List.mem_append_right _ List.mem_cons_self, rfl⟩

theorem exists_append_of_toList {text : String} {before behind : List Char} {place : Nat}
    (split : text.toList = before ++ behind) (length : place = byteLength before) :
    text = String.ofList before ++ String.ofList behind ∧
      (String.ofList before).utf8ByteSize = place := by
  refine ⟨?_, by rw [← byteLength_eq, length]⟩
  rw [← String.toList_inj, split]
  simp

theorem exists_append_of_scan_error {text : String} (failed : scan text = .error fault) :
    ∃ before behind, text = before ++ behind ∧ before.utf8ByteSize = fault.position ∧
      (∃ tokenized, tokenize before = .ok tokenized) ∧
      Unreadable behind.toList fault.lexeme := by
  obtain ⟨before, behind, characters, place, ⟨located, read⟩, unreadable⟩ :=
    scannedTo_of_error failed
  rw [Nat.zero_add] at place
  obtain ⟨split, length⟩ := exists_append_of_toList characters place
  rw [← String.toList_ofList (l := before)] at read
  exact ⟨_, _, split, length, ⟨_, bind_eq_ok_iff.mpr ⟨located, read, rfl⟩⟩,
    by rwa [String.toList_ofList]⟩

theorem exists_append_of_place {text : String} {located : List Located} {place : Nat}
    (read : scan text = .ok located)
    (known : place = text.utf8ByteSize ∨ ∃ entry ∈ located, entry.position = place) :
    ∃ before behind, text = before ++ behind ∧ before.utf8ByteSize = place := by
  rcases known with rfl | ⟨entry, member, rfl⟩
  · exact ⟨text, "", by simp⟩
  · obtain ⟨layout, -, characters, rfl⟩ := scan_eq_ok_iff.mp read
    obtain ⟨before, behind, split, length⟩ := layout.exists_split 0 member
    rw [Nat.zero_add] at length
    exact ⟨_, _, exists_append_of_toList (characters ▸ split) length⟩

theorem tokenize_of_scan {text : String} {located : List Located}
    (scanned : scan text = .ok located) :
    tokenize text = .ok ⟨located, text.utf8ByteSize⟩ := by
  rw [tokenize, scanned]
  rfl

theorem tokenize_of_scan_error {text : String} {cause : SyntaxError}
    (unscanned : scan text = .error cause) : tokenize text = .error cause := by
  rw [tokenize, unscanned]
  rfl

/-- A text without tokens has the fault of the scanner. -/
theorem Query.parse_of_scan_error {text : String} {cause : SyntaxError}
    (unscanned : scan text = .error cause) : Query.parse text = .error cause := by
  rw [Query.parse, tokenize_of_scan_error unscanned]
  rfl

theorem Query.breaksOff_of_parse_error {text : String} {located : List Located}
    (scanned : scan text = .ok located) (failed : Query.parse text = .error fault) :
    BreaksOff ⟨located, text.utf8ByteSize⟩ fault := by
  obtain ⟨layout, wellFormed, -, rfl⟩ := scan_eq_ok_iff.mp scanned
  rw [Query.parse, tokenize_of_scan scanned] at failed
  exact breaksOff_of_error (fun token => wellFormed.writable_token) failed

/-- The position of a fault is the length of a text in front of it.  If the text has no
tokens, the text in front of the position has, and there is none behind it.  Otherwise the
fault points at the first token with which the text cannot be continued to a query. -/
theorem Query.fault_where_text_breaks_off {text : String} {fault : SyntaxError}
    (failed : Query.parse text = .error fault) :
    ∃ before behind, text = before ++ behind ∧ before.utf8ByteSize = fault.position ∧
      ((∃ cause, tokenize text = .error cause) →
        (∃ tokenized, tokenize before = .ok tokenized) ∧ Unreadable behind.toList fault.lexeme) ∧
      ∀ tokenized, tokenize text = .ok tokenized → BreaksOff tokenized fault := by
  cases scanned : scan text with
  | error cause =>
      have unread := tokenize_of_scan_error scanned
      obtain rfl := Except.error.inj ((parse_of_scan_error scanned).symm.trans failed)
      obtain ⟨before, behind, split, length, place⟩ := exists_append_of_scan_error scanned
      refine ⟨before, behind, split, length, fun _ => place, fun other read => ?_⟩
      rw [unread] at read
      cases read
  | ok located =>
      have read := tokenize_of_scan scanned
      have breaks := breaksOff_of_parse_error scanned failed
      obtain ⟨before, behind, split, length⟩ := exists_append_of_place scanned breaks.place
      refine ⟨before, behind, split, length, ?_, fun other same => ?_⟩
      · rintro ⟨cause, unread⟩
        rw [read] at unread
        cases unread
      · obtain rfl := Except.ok.inj (read.symm.trans same)
        exact breaks

/-- The tokens of empty braces behind a character of two bytes. -/
def Tokenized.emptyBraces : Tokenized :=
  ⟨[⟨.word "get", 0⟩, ⟨.mark .openParen, 3⟩, ⟨.quoted "é", 4⟩, ⟨.mark .closeParen, 8⟩,
    ⟨.mark .openBrace, 9⟩, ⟨.mark .closeBrace, 10⟩], 11⟩

theorem Query.braces_and_character_blamed :
    BreaksOff .emptyBraces ⟨.emptyProjection, 9, "\x7b"⟩ ∧
    ∃ before behind, "get(\"é\") é" = before ++ behind ∧ before.utf8ByteSize = 10 ∧
      Unreadable behind.toList "é" := by
  constructor
  · have failed : Query.parse "get(\"é\")\x7b\x7d" =
        .error ⟨.emptyProjection, 9, "\x7b"⟩ := by decide +kernel
    obtain ⟨-, -, -, -, -, breaks⟩ := fault_where_text_breaks_off failed
    exact breaks .emptyBraces (by decide +kernel)
  · have failed : Query.parse "get(\"é\") é" =
        .error ⟨.unexpectedCharacter 'é', 10, "é"⟩ := by decide +kernel
    obtain ⟨before, behind, split, place, unscanned, -⟩ := fault_where_text_breaks_off failed
    have unread : tokenize "get(\"é\") é" = .error ⟨.unexpectedCharacter 'é', 10, "é"⟩ := by
      decide +kernel
    exact ⟨before, behind, split, place, (unscanned ⟨_, unread⟩).2⟩

end IssueQuery
