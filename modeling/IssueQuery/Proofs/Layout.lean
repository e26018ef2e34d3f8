import IssueQuery.Proofs.Outcome
import IssueQuery.Query.Scan
import Mathlib.Data.List.Chain

namespace IssueQuery

/-! Texts as written tokens with blanks between them.

A layout is a text `w₀ r₁ w₁ … rₙ wₙ` in which every `r` is a written token and
every `w` a gap of blanks.  A text has the tokens of its well-formed layouts and
no others (`scan_eq_ok_iff`).
-/

/-- A quotation mark inside a quoted text has a backslash in front. -/
def escapeQuote (character : Char) : List Char :=
  if character = '"' then ['\\', '"'] else [character]

/-- Whether a text can be read as a word. -/
def IsWord (text : String) : Prop :=
  text.toList ≠ [] ∧ ∀ character ∈ text.toList, isWordChar character = true

namespace Token

/-- How a token stands in a text. -/
def written : Token → List Char
  | .word text => text.toList
  | .mark sign => [sign.char]
  | .quoted text => '"' :: (text.toList.flatMap escapeQuote ++ ['"'])

/-- Whether a token can stand in a text.  A backslash at the end of a quoted text
would escape the closing mark. -/
def Writable : Token → Prop
  | .word text => IsWord text
  | .mark _ => True
  | .quoted text => text.toList.getLast? ≠ some '\\'

def isWord : Token → Bool
  | .word _ => true
  | .mark _ => false
  | .quoted _ => false

end Token

/-- A gap of blanks, and tokens each with the gap behind it. -/
structure Layout where
  lead : List Char
  body : List (Token × List Char)

namespace Layout

def characters (layout : Layout) : List Char :=
  layout.lead ++ layout.body.flatMap fun entry => entry.1.written ++ entry.2

/-- The tokens of a body whose first token stands at a position. -/
def locate (position : Nat) : List (Token × List Char) → List Located
  | [] => []
  | (token, gap) :: rest =>
      ⟨token, position⟩ :: locate (position + byteLength (token.written ++ gap)) rest

/-- The tokens of a layout that starts at a position. -/
def tokensFrom (position : Nat) (layout : Layout) : List Located :=
  locate (position + byteLength layout.lead) layout.body

/-- Every token can be written, gaps hold only blanks, and between two words
there is a gap. -/
structure WellFormed (layout : Layout) : Prop where
  leadBlank : ∀ character ∈ layout.lead, Text.isBlank character = true
  writable : ∀ entry ∈ layout.body, entry.1.Writable
  gapsBlank : ∀ entry ∈ layout.body, ∀ character ∈ entry.2, Text.isBlank character = true
  wordsApart : layout.body.IsChain fun first second =>
    first.1.isWord = true → second.1.isWord = true → first.2 ≠ []

end Layout

@[simp] theorem byteLength_nil : byteLength [] = 0 := rfl

@[simp] theorem byteLength_cons (character : Char) (rest : List Char) :
    byteLength (character :: rest) = character.utf8Size + byteLength rest := rfl

@[simp] theorem byteLength_append (first second : List Char) :
    byteLength (first ++ second) = byteLength first + byteLength second := by
  induction first with
  | nil => simp
  | cons character rest ih => simp [ih, Nat.add_assoc]

@[simp] theorem utf8Size_quotationMark : '"'.utf8Size = 1 := by decide

@[simp] theorem utf8Size_backslash : '\\'.utf8Size = 1 := by decide

theorem Mark.ofChar?_char (mark : Mark) : Mark.ofChar? mark.char = some mark := by
  cases mark <;> decide

theorem Mark.char_of_ofChar? {character : Char} {mark : Mark}
    (found : Mark.ofChar? character = some mark) : mark.char = character := by
  simpa using List.find?_some found

theorem Mark.isBlank_char (mark : Mark) : Text.isBlank mark.char = false := by
  cases mark <;> decide

theorem Mark.isWordChar_char (mark : Mark) : isWordChar mark.char = false := by
  cases mark <;> decide

theorem toNat_of_isWordChar {character : Char} (isPart : isWordChar character = true) :
    (48 ≤ character.toNat ∧ character.toNat ≤ 57) ∨
      (65 ≤ character.toNat ∧ character.toNat ≤ 90) ∨
      (97 ≤ character.toNat ∧ character.toNat ≤ 122) ∨
      character.toNat = 95 ∨ character.toNat = 45 ∨ character.toNat = 46 := by
  delta isWordChar Char.isAlphanum Char.isAlpha Char.isUpper Char.isLower Char.isDigit at isPart
  simp only [Bool.or_eq_true, Bool.and_eq_true, decide_eq_true_eq, beq_iff_eq, ge_iff_le,
    UInt32.le_iff_toNat_le] at isPart
  rcases isPart with (((alphanumeric | rfl) | rfl) | rfl)
  · simp only [Char.toNat_val, Char.reduceToNat] at alphanumeric
    omega
  · decide
  · decide
  · decide

theorem isBlank_of_isWordChar {character : Char} (isPart : isWordChar character = true) :
    Text.isBlank character = false := by
  have range := toNat_of_isWordChar isPart
  simp only [Text.isBlank, Text.blankRanges, List.any_cons, List.any_nil, Bool.or_false,
    Bool.or_eq_false_iff, Bool.and_eq_false_iff, decide_eq_false_iff_not]
  omega

theorem isWordChar_of_isBlank {character : Char} (blank : Text.isBlank character = true) :
    isWordChar character = false := by
  cases isPart : isWordChar character with
  | false => rfl
  | true =>
      rw [isBlank_of_isWordChar isPart] at blank
      cases blank

theorem Mark.ofChar?_of_isWordChar {character : Char} (isPart : isWordChar character = true) :
    Mark.ofChar? character = none := by
  cases found : Mark.ofChar? character with
  | none => rfl
  | some mark =>
      rw [← Mark.char_of_ofChar? found, mark.isWordChar_char] at isPart
      cases isPart

/-- Behind a backslash that is no escape stands no quotation mark. -/
theorem escape_head {text : List Char} (more : text ≠ []) (rest : List Char) :
    (text.flatMap escapeQuote ++ rest).head? ≠ some '"' := by
  obtain ⟨character, tail, rfl⟩ := List.exists_cons_of_ne_nil more
  by_cases quote : character = '"'
  · simp [escapeQuote, quote]
  · simp [escapeQuote, quote]

/-- A character that neither closes the text nor escapes the next one stands for
itself. -/
theorem readQuoted?_cons {character : Char} {rest : List Char} (notQuote : character ≠ '"')
    (notEscape : character = '\\' → rest.head? ≠ some '"') :
    readQuoted? (character :: rest) =
      (readQuoted? rest).map fun (text, width, remaining) =>
        (character :: text, width + character.utf8Size, remaining) := by
  rw [readQuoted?]
  · exact notQuote
  · rintro tail rfl rfl
    exact notEscape rfl rfl

theorem getLast?_ne_of_cons {α : Type} {first last : α} {rest : List α}
    (different : (first :: rest).getLast? ≠ some last) : rest.getLast? ≠ some last := by
  intro same
  rw [List.getLast?_cons, same] at different
  exact different rfl

theorem readQuoted?_complete {text : List Char} (rest : List Char)
    (closed : text.getLast? ≠ some '\\') :
    readQuoted? (text.flatMap escapeQuote ++ '"' :: rest) =
      some (text, byteLength (text.flatMap escapeQuote) + 1, rest) := by
  induction text with
  | nil => simp [readQuoted?]
  | cons character tail ih =>
      have tailRead := ih (getLast?_ne_of_cons closed)
      by_cases quote : character = '"'
      · subst character
        simp only [List.flatMap_cons, escapeQuote, if_true, List.cons_append, List.nil_append,
          readQuoted?, byteLength_cons, utf8Size_quotationMark, utf8Size_backslash] at tailRead ⊢
        rw [tailRead, Option.map_some]
        simp only [Option.some.injEq, Prod.mk.injEq, true_and, and_true]
        omega
      · have single : escapeQuote character = [character] := if_neg quote
        rw [List.flatMap_cons, single, List.singleton_append, List.cons_append,
          readQuoted?_cons quote, tailRead]
        · simp only [Option.map_some, byteLength_cons, Option.some.injEq, Prod.mk.injEq,
            true_and, and_true]
          omega
        · rintro rfl
          apply escape_head
          rintro rfl
          exact closed rfl

theorem readQuoted?_sound {characters text rest : List Char} {width : Nat}
    (read : readQuoted? characters = some (text, width, rest)) :
    characters = text.flatMap escapeQuote ++ '"' :: rest ∧
      width = byteLength (text.flatMap escapeQuote) + 1 ∧ text.getLast? ≠ some '\\' := by
  fun_induction readQuoted? characters generalizing text width with
  | case1 => cases read
  | case2 tail =>
      cases read
      simp
  | case3 tail ih =>
      obtain ⟨⟨inner, innerWidth, remaining⟩, innerRead, equal⟩ := Option.map_eq_some_iff.1 read
      cases equal
      obtain ⟨rfl, rfl, closed⟩ := ih innerRead
      refine ⟨by simp [escapeQuote], ?_, ?_⟩
      · simp only [List.flatMap_cons, escapeQuote, if_true, byteLength_append, byteLength_cons,
          byteLength_nil, utf8Size_quotationMark, utf8Size_backslash]
        omega
      · cases last : inner.getLast? <;> simp_all [List.getLast?_cons]
  | case4 character tail notQuote notEscape ih =>
      obtain ⟨⟨inner, innerWidth, remaining⟩, innerRead, equal⟩ := Option.map_eq_some_iff.1 read
      cases equal
      obtain ⟨rfl, rfl, closed⟩ := ih innerRead
      have single : escapeQuote character = [character] := if_neg notQuote
      refine ⟨by simp [single], ?_, ?_⟩
      · rw [List.flatMap_cons, single, byteLength_append, byteLength_cons, byteLength_nil]
        omega
      · cases inner with
        | nil =>
            rintro ⟨⟩
            exact notEscape _ rfl rfl
        | cons next others => simpa [List.getLast?_cons] using closed

namespace Layout

/-- The layout with one more blank in front. -/
def indent (character : Char) (layout : Layout) : Layout :=
  ⟨character :: layout.lead, layout.body⟩

/-- The layout with one more token in front. -/
def push (token : Token) (layout : Layout) : Layout :=
  ⟨[], (token, layout.lead) :: layout.body⟩

variable {layout : Layout} {token : Token} {position : Nat}

@[simp] theorem characters_indent (character : Char) :
    (layout.indent character).characters = character :: layout.characters := rfl

@[simp] theorem characters_push : (layout.push token).characters =
    token.written ++ layout.characters := by
  simp [characters, push]

@[simp] theorem tokensFrom_indent (character : Char) :
    (layout.indent character).tokensFrom position =
      layout.tokensFrom (position + character.utf8Size) := by
  simp [tokensFrom, indent, Nat.add_assoc]

@[simp] theorem tokensFrom_push : (layout.push token).tokensFrom position =
    ⟨token, position⟩ :: layout.tokensFrom (position + byteLength token.written) := by
  simp [tokensFrom, push, locate, Nat.add_assoc]

theorem WellFormed.indent (wellFormed : layout.WellFormed) {character : Char}
    (blank : Text.isBlank character = true) : (layout.indent character).WellFormed where
  leadBlank := List.forall_mem_cons.mpr ⟨blank, wellFormed.leadBlank⟩
  writable := wellFormed.writable
  gapsBlank := wellFormed.gapsBlank
  wordsApart := wellFormed.wordsApart

/-- A word must not run into what is laid out behind it. -/
theorem WellFormed.push (wellFormed : layout.WellFormed) (writable : token.Writable)
    (apart : token.isWord = true →
      ∀ character ∈ layout.characters.head?, isWordChar character = false) :
    (layout.push token).WellFormed where
  leadBlank := by simp [Layout.push]
  writable := List.forall_mem_cons.mpr ⟨writable, wellFormed.writable⟩
  gapsBlank := List.forall_mem_cons.mpr ⟨wellFormed.leadBlank, wellFormed.gapsBlank⟩
  wordsApart := by
    obtain ⟨lead, body⟩ := layout
    cases body with
    | nil => exact .singleton _
    | cons next rest =>
        refine .cons_cons ?_ wellFormed.wordsApart
        -- Without a gap the next word would be the head of the layout.
        rintro isWord nextIsWord rfl
        obtain ⟨nextToken, gap⟩ := next
        have nextWritable := wellFormed.writable (nextToken, gap) (by simp)
        cases nextToken with
        | word text =>
            obtain ⟨nonempty, parts⟩ := nextWritable
            obtain ⟨first, others, text⟩ := List.exists_cons_of_ne_nil nonempty
            have isPart := parts first (by simp [text])
            rw [apart isWord first (by simp [characters, Token.written, text])] at isPart
            cases isPart
        | mark sign => cases nextIsWord
        | quoted text => cases nextIsWord

theorem WellFormed.behind {lead gap : List Char} {rest : List (Token × List Char)}
    (wellFormed : WellFormed ⟨lead, (token, gap) :: rest⟩) : WellFormed ⟨gap, rest⟩ where
  leadBlank := (List.forall_mem_cons.mp wellFormed.gapsBlank).1
  writable := (List.forall_mem_cons.mp wellFormed.writable).2
  gapsBlank := (List.forall_mem_cons.mp wellFormed.gapsBlank).2
  wordsApart := wellFormed.wordsApart.of_cons

theorem WellFormed.head_behind_word {lead gap : List Char} {rest : List (Token × List Char)}
    (wellFormed : WellFormed ⟨lead, (token, gap) :: rest⟩) (isWord : token.isWord = true) :
    ∀ character ∈ (characters ⟨gap, rest⟩).head?, isWordChar character = false := by
  intro character head
  cases gap with
  | cons blank others =>
      cases head
      exact isWordChar_of_isBlank (wellFormed.behind.leadBlank character (by simp))
  | nil =>
      cases rest with
      | nil => cases head
      | cons next others =>
          obtain ⟨nextToken, nextGap⟩ := next
          cases nextToken with
          | word text =>
              exact absurd rfl ((List.isChain_cons_cons.mp wellFormed.wordsApart).1 isWord rfl)
          | mark sign =>
              cases head
              exact sign.isWordChar_char
          | quoted text =>
              cases head
              decide

end Layout

theorem scanFrom_gap {gap : List Char} (blank : ∀ character ∈ gap, Text.isBlank character = true)
    (position : Nat) (rest : List Char) :
    scanFrom position (gap ++ rest) = scanFrom (position + byteLength gap) rest := by
  induction gap generalizing position with
  | nil => rfl
  | cons character gap ih =>
      rw [List.cons_append, scanFrom, if_pos (blank character (by simp)),
        ih (fun other member => blank other (by simp [member])), byteLength_cons, Nat.add_assoc]

theorem scanFrom_mark (sign : Mark) (position : Nat) (rest : List Char) :
    scanFrom position ((Token.mark sign).written ++ rest) =
      (scanFrom (position + byteLength (Token.mark sign).written) rest).map
        (⟨.mark sign, position⟩ :: ·) := by
  rw [Token.written, List.singleton_append, scanFrom, sign.isBlank_char]
  simp [Mark.ofChar?_char]

theorem scanFrom_quoted {text : String} (writable : (Token.quoted text).Writable) (position : Nat)
    (rest : List Char) :
    scanFrom position ((Token.quoted text).written ++ rest) =
      (scanFrom (position + byteLength (Token.quoted text).written) rest).map
        (⟨.quoted text, position⟩ :: ·) := by
  have notBlank : Text.isBlank '"' = false := by decide
  have noMark : Mark.ofChar? '"' = none := by decide
  have shape : (Token.quoted text).written ++ rest =
      '"' :: (text.toList.flatMap escapeQuote ++ '"' :: rest) := by simp [Token.written]
  have length : byteLength (Token.quoted text).written =
      1 + (byteLength (text.toList.flatMap escapeQuote) + 1) := by
    simp [Token.written]
  rw [shape, scanFrom, length]
  simp only [notBlank, noMark, Bool.false_eq_true, if_false, if_true]
  split
  · rename_i unread
    rw [readQuoted?_complete rest writable] at unread
    cases unread
  · rename_i read
    rw [readQuoted?_complete rest writable] at read
    cases read
    rw [String.ofList_toList, Nat.add_assoc]

/-- A word ends where no character of a word follows. -/
theorem scanFrom_word {text : String} (writable : (Token.word text).Writable) {rest : List Char}
    (apart : ∀ character ∈ rest.head?, isWordChar character = false) (position : Nat) :
    scanFrom position ((Token.word text).written ++ rest) =
      (scanFrom (position + byteLength (Token.word text).written) rest).map
        (⟨.word text, position⟩ :: ·) := by
  obtain ⟨nonempty, parts⟩ := writable
  obtain ⟨first, others, characters⟩ := List.exists_cons_of_ne_nil nonempty
  rw [characters] at parts
  have isPart := parts first (by simp)
  have notQuote : first ≠ '"' := by
    rintro rfl
    cases isPart
  have othersParts : ∀ character ∈ others, isWordChar character = true :=
    fun character member => parts character (by simp [member])
  have stop : rest.takeWhile isWordChar = [] ∧ rest.dropWhile isWordChar = rest := by
    cases rest with
    | nil => exact ⟨rfl, rfl⟩
    | cons next tail => simp [apart next rfl]
  rw [Token.written, characters, List.cons_append, scanFrom, isBlank_of_isWordChar isPart]
  simp only [Mark.ofChar?_of_isWordChar isPart, notQuote, isPart, Bool.false_eq_true, if_false,
    if_true, List.takeWhile_append_of_pos othersParts,
    List.dropWhile_append_of_pos othersParts, stop, List.append_nil]
  rw [← characters, String.ofList_toList]

theorem scanFrom_written {token : Token} (writable : token.Writable) {rest : List Char}
    (apart : token.isWord = true → ∀ character ∈ rest.head?, isWordChar character = false)
    (position : Nat) :
    scanFrom position (token.written ++ rest) =
      (scanFrom (position + byteLength token.written) rest).map (⟨token, position⟩ :: ·) := by
  cases token with
  | mark sign => exact scanFrom_mark sign position rest
  | quoted text => exact scanFrom_quoted writable position rest
  | word text => exact scanFrom_word writable (apart rfl) position

/-- A text that is laid out is read as the tokens of its layout. -/
theorem scanFrom_complete {layout : Layout} (wellFormed : layout.WellFormed) (position : Nat) :
    scanFrom position layout.characters = .ok (layout.tokensFrom position) := by
  obtain ⟨lead, body⟩ := layout
  induction body generalizing lead position with
  | nil =>
      have blank := scanFrom_gap wellFormed.leadBlank position []
      simpa [Layout.characters, Layout.tokensFrom, Layout.locate, scanFrom] using blank
  | cons entry rest ih =>
      obtain ⟨token, gap⟩ := entry
      have shape : Layout.characters ⟨lead, (token, gap) :: rest⟩ =
          lead ++ (token.written ++ Layout.characters ⟨gap, rest⟩) := by
        simp [Layout.characters]
      rw [shape, scanFrom_gap wellFormed.leadBlank, scanFrom_written
        (wellFormed.writable (token, gap) (by simp)) wellFormed.head_behind_word,
        ih _ gap wellFormed.behind]
      simp [Layout.tokensFrom, Layout.locate, Except.map, Nat.add_assoc]

theorem writable_word {character : Char} (isPart : isWordChar character = true)
    (rest : List Char) :
    (Token.word (String.ofList (character :: rest.takeWhile isWordChar))).Writable := by
  refine ⟨by rw [String.toList_ofList]; exact List.cons_ne_nil _ _, fun other member => ?_⟩
  rw [String.toList_ofList] at member
  rcases List.mem_cons.mp member with rfl | member
  · exact isPart
  · exact List.all_eq_true.mp List.all_takeWhile other member

theorem isWordChar_behind_word (rest : List Char) :
    ∀ other ∈ (rest.dropWhile isWordChar).head?, isWordChar other = false := by
  intro other head
  have ended := List.head?_dropWhile_not isWordChar rest
  rw [Option.mem_def.mp head] at ended
  simpa using ended

/-- A text that has tokens is laid out from them. -/
theorem scanFrom_sound {position : Nat} {characters : List Char} {located : List Located}
    (read : scanFrom position characters = .ok located) :
    ∃ layout : Layout, layout.WellFormed ∧ layout.characters = characters ∧
      layout.tokensFrom position = located := by
  fun_induction scanFrom position characters generalizing located with
  | case1 position =>
      cases read
      exact ⟨⟨[], []⟩, ⟨by simp, by simp, by simp, .nil⟩, rfl, rfl⟩
  | case2 position character rest blank ih =>
      obtain ⟨layout, wellFormed, rfl, rfl⟩ := ih read
      exact ⟨layout.indent character, wellFormed.indent blank, by simp, by simp⟩
  | case3 position character rest notBlank sign found ih =>
      obtain ⟨more, restRead, rfl⟩ := map_eq_ok_iff.mp read
      obtain ⟨layout, wellFormed, rfl, rfl⟩ := ih restRead
      have char := Mark.char_of_ofChar? found
      refine ⟨layout.push (.mark sign), wellFormed.push trivial (by simp [Token.isWord]), ?_, ?_⟩
      · simp [Token.written, char]
      · simp [Token.written, char]
  | case4 => cases read
  | case5 position rest text width remaining quoted notBlank noMark ih =>
      obtain ⟨more, restRead, rfl⟩ := map_eq_ok_iff.mp read
      obtain ⟨layout, wellFormed, rfl, rfl⟩ := ih restRead
      obtain ⟨rfl, rfl, closed⟩ := readQuoted?_sound quoted
      refine ⟨layout.push (.quoted (String.ofList text)),
        wellFormed.push (by simpa [Token.Writable] using closed) (by simp [Token.isWord]), ?_, ?_⟩
      · simp [Token.written]
      · simp [Token.written, Nat.add_assoc]
  | case6 position character rest notBlank noMark notQuote isPart word =>
      rename_i ih
      obtain ⟨more, restRead, rfl⟩ := map_eq_ok_iff.mp read
      obtain ⟨layout, wellFormed, remaining, rfl⟩ := ih restRead
      have written : (Token.word (String.ofList word)).written = word := String.toList_ofList
      have stop : ∀ other ∈ layout.characters.head?, isWordChar other = false := by
        rw [remaining]
        exact isWordChar_behind_word rest
      refine ⟨layout.push (.word (String.ofList word)),
        wellFormed.push (writable_word isPart rest) fun _ => stop, ?_, ?_⟩
      · rw [Layout.characters_push, written, remaining, List.cons_append,
          List.takeWhile_append_dropWhile]
      · rw [Layout.tokensFrom_push, written]
  | case7 => cases read

theorem scan_eq_ok_iff {text : String} {located : List Located} :
    scan text = .ok located ↔
      ∃ layout : Layout, layout.WellFormed ∧ layout.characters = text.toList ∧
        layout.tokensFrom 0 = located := by
  constructor
  · exact scanFrom_sound
  · rintro ⟨layout, wellFormed, characters, rfl⟩
    rw [scan, ← characters]
    exact scanFrom_complete wellFormed 0

end IssueQuery
