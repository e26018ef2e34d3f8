import IssueQuery.Proofs.Layout

namespace IssueQuery

/-! Splitting a text in place.

The scanner of `Query.Scan` consumes characters.  The one below holds on to the
whole text and an offset, and looks at the text by slicing it there.  A slice
taken inside a character has no value, so that the scanners agree
(`Cursor.tokenize_eq`) says that every slice falls between characters.
-/

/-- A text from one offset to another, if both of them are between characters. -/
def slice? (text : String) (start finish : Nat) : Option String := do
  let first ← text.pos? ⟨start⟩
  let last ← text.pos? ⟨finish⟩
  if first ≤ last then some (text.extract first last) else none

namespace Cursor

/-- The character at an offset, if that is not the end. -/
def current? (text : String) (offset : Nat) : Option (Option Char) :=
  (slice? text offset text.utf8ByteSize).map (·.toList.head?)

theorem slice?_bytes {text part : String} {start finish : Nat}
    (found : slice? text start finish = some part) :
    part.toByteArray = text.toByteArray.extract start finish := by
  simp only [slice?, String.pos?, String.Slice.pos?, Option.bind_eq_bind] at found
  split at found
  · split at found
    · simp only [Option.map_some, Option.bind_some, Option.ite_none_right_eq_some,
        Option.some.injEq] at found
      obtain ⟨-, rfl⟩ := found
      exact String.toByteArray_extract
    · cases found
  · cases found

theorem lt_of_current? {text : String} {offset : Nat} {character : Char}
    (found : current? text offset = some (some character)) : offset < text.utf8ByteSize := by
  obtain ⟨rest, sliced, head⟩ := Option.map_eq_some_iff.mp found
  by_contra beyond
  have size : rest.toByteArray.size = 0 := by
    rw [slice?_bytes sliced, ByteArray.size_extract, String.size_toByteArray]
    omega
  rw [String.size_toByteArray, String.utf8ByteSize_eq_zero_iff] at size
  rw [size] at head
  cases head

/-- The offset of the first character from an offset on that is not of a kind. -/
def skip (kind : Char → Bool) (text : String) (offset : Nat) : Option Nat :=
  match _ : current? text offset with
  | none => none
  | some none => some offset
  | some (some character) =>
      if kind character then skip kind text (offset + character.utf8Size) else some offset
termination_by text.utf8ByteSize - offset
decreasing_by
  have := lt_of_current? ‹_›
  have := character.utf8Size_pos
  omega

/-- Reads a quoted text behind its opening mark: the value so far with what
follows, and the offset behind the closing mark. -/
def readQuoted (text : String) (offset : Nat) (value : String) : Option (Option (String × Nat)) :=
  match _ : current? text offset with
  | none => none
  | some none => some none
  | some (some character) =>
      let next := offset + character.utf8Size
      if character = '"' then
        some (some (value, next))
      else if character = '\\' then
        match current? text next with
        | none => none
        | some following =>
            if following = some '"' then
              readQuoted text (next + '"'.utf8Size) (value.push '"')
            else
              readQuoted text next (value.push character)
      else
        readQuoted text next (value.push character)
termination_by text.utf8ByteSize - offset
decreasing_by
  all_goals
    have := lt_of_current? ‹_›
    have := character.utf8Size_pos
    omega

/-- The token that starts at an offset with a character, and the offset behind it. -/
def readTokenAt (text : String) (start : Nat) (character : Char) :
    Option (Except SyntaxError (Located × Nat)) :=
  match Mark.ofChar? character with
  | some mark => some (.ok (⟨.mark mark, start⟩, start + character.utf8Size))
  | none =>
      if character = '"' then
        match readQuoted text (start + character.utf8Size) "" with
        | none => none
        | some none =>
            (slice? text start text.utf8ByteSize).map fun rest =>
              .error ⟨.unterminatedText, start, rest⟩
        | some (some (value, finish)) => some (.ok (⟨.quoted value, start⟩, finish))
      else if isWordChar character then
        match skip isWordChar text start with
        | none => none
        | some finish =>
            (slice? text start finish).map fun word => .ok (⟨.word word, start⟩, finish)
      else
        some (.error ⟨.unexpectedCharacter character, start, String.singleton character⟩)

/-- The first token from an offset on, if there is one, and the offset behind it. -/
def readToken (text : String) (offset : Nat) :
    Option (Except SyntaxError (Option (Located × Nat))) :=
  match skip Text.isBlank text offset with
  | none => none
  | some start =>
      match current? text start with
      | none => none
      | some none => some (.ok none)
      | some (some character) => (readTokenAt text start character).map (·.map some)

theorem le_of_skip {kind : Char → Bool} {text : String} {offset finish : Nat}
    (skipped : skip kind text offset = some finish) : offset ≤ finish := by
  fun_induction skip kind text offset with
  | case1 => cases skipped
  | case2 => exact (Option.some.inj skipped).le
  | case3 offset character found ofKind ih =>
      have := ih skipped
      omega
  | case4 => exact (Option.some.inj skipped).le

theorem lt_of_skip {kind : Char → Bool} {text : String} {offset finish : Nat} {character : Char}
    (found : current? text offset = some (some character)) (ofKind : kind character = true)
    (skipped : skip kind text offset = some finish) : offset < finish := by
  have := character.utf8Size_pos
  rw [skip] at skipped
  split at skipped <;> rename_i same <;> rw [found] at same <;> cases same
  rw [if_pos ofKind] at skipped
  have := le_of_skip skipped
  omega

theorem le_of_readQuoted {text value whole : String} {offset finish : Nat}
    (read : readQuoted text offset value = some (some (whole, finish))) : offset ≤ finish := by
  fun_induction readQuoted text offset value with
  | case1 => cases read
  | case2 => cases read
  | case3 =>
      simp only [Option.some.injEq, Prod.mk.injEq] at read
      omega
  | case4 => cases read
  | case5 =>
      rename_i ih
      have := ih read
      omega
  | case6 =>
      rename_i ih
      have := ih read
      omega
  | case7 =>
      rename_i ih
      have := ih read
      omega

/-- A token is not empty. -/
theorem lt_of_readTokenAt {text : String} {start finish : Nat} {character : Char}
    {located : Located} (found : current? text start = some (some character))
    (read : readTokenAt text start character = some (.ok (located, finish))) : start < finish := by
  have positive := character.utf8Size_pos
  unfold readTokenAt at read
  split at read
  · cases read
    omega
  · split at read
    · split at read
      · cases read
      · obtain ⟨_, _, impossible⟩ := Option.map_eq_some_iff.mp read
        cases impossible
      · rename_i quoted
        cases read
        have := le_of_readQuoted quoted
        omega
    · split at read
      · rename_i isPart
        split at read
        · cases read
        · rename_i skipped
          obtain ⟨_, _, equal⟩ := Option.map_eq_some_iff.mp read
          cases equal
          exact lt_of_skip found isPart skipped
      · cases read

theorem lt_of_readToken {text : String} {offset finish : Nat} {located : Located}
    (read : readToken text offset = some (.ok (some (located, finish)))) :
    offset < finish ∧ offset < text.utf8ByteSize := by
  unfold readToken at read
  split at read
  · cases read
  · rename_i start skipped
    split at read
    · cases read
    · cases read
    · rename_i character found
      obtain ⟨outcome, tokenRead, equal⟩ := Option.map_eq_some_iff.mp read
      obtain ⟨token, rfl, same⟩ := map_eq_ok_iff.mp equal
      cases same
      have := le_of_skip skipped
      have := lt_of_readTokenAt found tokenRead
      have := lt_of_current? found
      omega

/-- The tokens from an offset on. -/
def readTokens (text : String) (offset : Nat) : Option (Except SyntaxError (List Located)) :=
  match _ : readToken text offset with
  | none => none
  | some (.error fault) => some (.error fault)
  | some (.ok none) => some (.ok [])
  | some (.ok (some (located, finish))) =>
      (readTokens text finish).map (·.map (located :: ·))
termination_by text.utf8ByteSize - offset
decreasing_by
  have := lt_of_readToken ‹_›
  omega

theorem readTokens_eq (text : String) (offset : Nat) :
    readTokens text offset =
      match readToken text offset with
      | none => none
      | some (.error fault) => some (.error fault)
      | some (.ok none) => some (.ok [])
      | some (.ok (some (located, finish))) =>
          (readTokens text finish).map (·.map (located :: ·)) := by
  rw [readTokens]
  split <;> simp_all only

/-- The tokens of a text and where it ends, unless a slice falls inside a character. -/
def tokenize (text : String) : Option (Except SyntaxError Tokenized) :=
  (readTokens text 0).map (·.map (⟨·, text.utf8ByteSize⟩))

end Cursor

theorem byteLength_toList (text : String) : byteLength text.toList = text.utf8ByteSize := by
  obtain ⟨characters, rfl⟩ := text.exists_eq_ofList
  rw [String.toList_ofList]
  induction characters with
  | nil => rfl
  | cons character rest ih =>
      rw [byteLength_cons, ih, String.ofList_cons, String.utf8ByteSize_append,
        String.utf8ByteSize_singleton]

theorem byteLength_eq (characters : List Char) :
    byteLength characters = (String.ofList characters).utf8ByteSize := by
  rw [← byteLength_toList, String.toList_ofList]

theorem pos?_eq_some {text : String} {before behind : List Char}
    (split : text.toList = before ++ behind) :
    ∃ position, text.pos? ⟨byteLength before⟩ = some position ∧
      position.offset.byteIdx = byteLength before := by
  have valid : (⟨byteLength before⟩ : String.Pos.Raw).IsValid text := by
    refine String.Pos.Raw.isValid_iff_exists_append.mpr
      ⟨String.ofList before, String.ofList behind, ?_, ?_⟩
    · rw [← String.ofList_append, ← split, String.ofList_toList]
    · rw [byteLength_eq]
      rfl
  refine ⟨text.pos _ valid, ?_, rfl⟩
  simp [String.pos?, String.Slice.pos?, valid]
  rfl

theorem extract_eq {text : String} {first last : text.Pos} {before middle behind : List Char}
    (split : text.toList = before ++ (middle ++ behind))
    (start : first.offset.byteIdx = byteLength before)
    (finish : last.offset.byteIdx = byteLength (before ++ middle)) :
    text.extract first last = String.ofList middle := by
  have parts : text =
      String.ofList before ++ (String.ofList middle ++ String.ofList behind) := by
    rw [← String.ofList_append, ← String.ofList_append, ← split, String.ofList_toList]
  have bytes := congrArg String.toByteArray parts
  rw [String.toByteArray_append, String.toByteArray_append] at bytes
  have startSize : first.offset.byteIdx = (String.ofList before).toByteArray.size + 0 := by
    rw [start, byteLength_eq, String.size_toByteArray, Nat.add_zero]
  have finishSize : last.offset.byteIdx =
      (String.ofList before).toByteArray.size + (String.ofList middle).toByteArray.size := by
    rw [finish, byteLength_append, byteLength_eq, byteLength_eq, String.size_toByteArray,
      String.size_toByteArray]
  rw [← String.toByteArray_inj, String.toByteArray_extract, bytes, startSize, finishSize,
    ByteArray.extract_append_size_add, ByteArray.extract_append_eq_left rfl]

theorem push_append_ofList (value : String) (character : Char) (rest : List Char) :
    value.push character ++ String.ofList rest = value ++ String.ofList (character :: rest) := by
  simp [← String.toList_inj]

/-- From an offset on, a text goes on with characters. -/
def GoesOn (text : String) (offset : Nat) (characters : List Char) : Prop :=
  ∃ before, text.toList = before ++ characters ∧ byteLength before = offset

namespace GoesOn

variable {text : String} {offset : Nat} {characters middle rest : List Char} {character : Char}

theorem start (text : String) : GoesOn text 0 text.toList := ⟨[], rfl, rfl⟩

theorem behind (goesOn : GoesOn text offset (middle ++ rest)) :
    GoesOn text (offset + byteLength middle) rest := by
  obtain ⟨before, split, rfl⟩ := goesOn
  exact ⟨before ++ middle, by rw [split, List.append_assoc], byteLength_append _ _⟩

theorem tail (goesOn : GoesOn text offset (character :: rest)) :
    GoesOn text (offset + character.utf8Size) rest :=
  @GoesOn.behind text offset [character] rest goesOn

theorem finish (goesOn : GoesOn text offset characters) :
    text.utf8ByteSize = offset + byteLength characters := by
  obtain ⟨before, split, rfl⟩ := goesOn
  rw [← byteLength_toList, split, byteLength_append]

theorem slice (goesOn : GoesOn text offset (middle ++ rest)) :
    slice? text offset (offset + byteLength middle) = some (String.ofList middle) := by
  obtain ⟨before, split, rfl⟩ := goesOn
  obtain ⟨first, firstFound, start⟩ := pos?_eq_some split
  have splitBehind : text.toList = (before ++ middle) ++ rest := by
    rw [split, List.append_assoc]
  obtain ⟨last, lastFound, finish⟩ := pos?_eq_some splitBehind
  have ordered : first ≤ last := by
    rw [String.Pos.le_iff, String.Pos.Raw.le_iff, start, finish, byteLength_append]
    exact Nat.le_add_right _ _
  rw [byteLength_append] at lastFound
  simp only [slice?, firstFound, lastFound, Option.bind_eq_bind, Option.bind_some, if_pos ordered,
    extract_eq split start finish]

theorem sliceToEnd (goesOn : GoesOn text offset characters) :
    slice? text offset text.utf8ByteSize = some (String.ofList characters) := by
  have whole : GoesOn text offset (characters ++ []) := by rwa [List.append_nil]
  rw [goesOn.finish, whole.slice]

theorem current (goesOn : GoesOn text offset characters) :
    Cursor.current? text offset = some characters.head? := by
  rw [Cursor.current?, goesOn.sliceToEnd, Option.map_some, String.toList_ofList]

theorem skip (goesOn : GoesOn text offset characters) (kind : Char → Bool) :
    Cursor.skip kind text offset = some (offset + byteLength (characters.takeWhile kind)) := by
  induction characters generalizing offset with
  | nil =>
      rw [Cursor.skip, goesOn.current]
      rfl
  | cons character rest ih =>
      rw [Cursor.skip, goesOn.current]
      by_cases ofKind : kind character = true
      · simp only [List.head?_cons, if_pos ofKind, ih goesOn.tail,
          List.takeWhile_cons_of_pos ofKind, byteLength_cons, Nat.add_assoc]
      · simp only [List.head?_cons, if_neg ofKind, List.takeWhile_cons_of_neg ofKind,
          byteLength_nil, Nat.add_zero]

theorem readQuoted (goesOn : GoesOn text offset characters) (value : String) :
    Cursor.readQuoted text offset value =
      some ((readQuoted? characters).map fun (more, width, _) =>
        (value ++ String.ofList more, offset + width)) := by
  fun_induction readQuoted? characters generalizing offset value with
  | case1 =>
      rw [Cursor.readQuoted, goesOn.current]
      rfl
  | case2 rest =>
      rw [Cursor.readQuoted, goesOn.current]
      simp
  | case3 rest ih =>
      rw [Cursor.readQuoted, goesOn.current]
      simp only [List.head?_cons, goesOn.tail.current, ih goesOn.tail.tail]
      cases readQuoted? rest with
      | none => simp
      | some found =>
          simp [push_append_ofList]
          omega
  | case4 character rest notQuote notEscape ih =>
      have noEscape : character = '\\' → rest.head? ≠ some '"' := by
        intro backslash quoteNext
        obtain ⟨remaining, rfl⟩ := List.head?_eq_some_iff.mp quoteNext
        exact notEscape remaining backslash rfl
      have pushed : Cursor.readQuoted text offset value =
          Cursor.readQuoted text (offset + character.utf8Size) (value.push character) := by
        rw [Cursor.readQuoted, goesOn.current]
        simp only [List.head?_cons, if_neg notQuote, goesOn.tail.current]
        split
        · rename_i backslash
          rw [if_neg (noEscape backslash)]
        · rfl
      rw [pushed, ih goesOn.tail]
      cases readQuoted? rest with
      | none => rfl
      | some found =>
          simp [push_append_ofList]
          omega

theorem readQuoted_behind (goesOn : GoesOn text offset ('"' :: rest)) :
    Cursor.readQuoted text (offset + 1) "" =
      some ((readQuoted? rest).map fun (value, width, _) =>
        (String.ofList value, offset + 1 + width)) := by
  have behind : GoesOn text (offset + 1) rest := by simpa using goesOn.tail
  rw [behind.readQuoted]
  simp

theorem readToken_of_blank (goesOn : GoesOn text offset (character :: rest))
    (blank : Text.isBlank character = true) :
    Cursor.readToken text offset = Cursor.readToken text (offset + character.utf8Size) := by
  rw [Cursor.readToken, Cursor.readToken, goesOn.skip, goesOn.tail.skip,
    List.takeWhile_cons_of_pos blank, byteLength_cons, Nat.add_assoc]

theorem readToken (goesOn : GoesOn text offset (character :: rest))
    (notBlank : ¬ Text.isBlank character = true) :
    Cursor.readToken text offset = (Cursor.readTokenAt text offset character).map (·.map some) := by
  simp only [Cursor.readToken, goesOn.skip, List.takeWhile_cons_of_neg notBlank, byteLength_nil,
    Nat.add_zero, goesOn.current, List.head?_cons]

theorem readTokens (goesOn : GoesOn text offset characters) :
    Cursor.readTokens text offset = some (scanFrom offset characters) := by
  fun_induction scanFrom offset characters with
  | case1 position =>
      rw [Cursor.readTokens_eq, Cursor.readToken, goesOn.skip]
      simp [goesOn.current]
  | case2 position character rest blank ih =>
      -- The scanner takes blanks one by one, a cursor skips them all at once.
      rw [Cursor.readTokens_eq, goesOn.readToken_of_blank blank, ← Cursor.readTokens_eq,
        ih goesOn.tail]
  | case3 position character rest notBlank sign found ih =>
      rw [Cursor.readTokens_eq, goesOn.readToken notBlank, Cursor.readTokenAt, found]
      simp [Except.map, ih goesOn.tail]
  | case4 position rest unread notBlank noMark =>
      rw [Cursor.readTokens_eq, goesOn.readToken notBlank, Cursor.readTokenAt, noMark]
      simp [goesOn.readQuoted_behind, unread, goesOn.sliceToEnd, Except.map]
  | case5 position rest value width remaining quoted notBlank noMark ih =>
      obtain ⟨shape, widths, -⟩ := readQuoted?_sound quoted
      have body : GoesOn text (position + 1)
          ((value.flatMap escapeQuote ++ ['"']) ++ remaining) := by
        simpa [shape] using goesOn.tail
      have behind : GoesOn text (position + 1 + width) remaining := by
        simpa [widths] using body.behind
      rw [Cursor.readTokens_eq, goesOn.readToken notBlank, Cursor.readTokenAt, noMark]
      simp [goesOn.readQuoted_behind, quoted, ih behind, Except.map]
  | case6 position character rest notBlank noMark notQuote isPart word =>
      rename_i ih
      have split : character :: rest = word ++ rest.dropWhile isWordChar := by
        rw [List.cons_append, List.takeWhile_append_dropWhile]
      have wordRead : Cursor.skip isWordChar text position = some (position + byteLength word) := by
        rw [goesOn.skip, List.takeWhile_cons_of_pos isPart]
      have sliced : slice? text position (position + byteLength word) =
          some (String.ofList word) := (split ▸ goesOn).slice
      have remaining : GoesOn text (position + byteLength word) (rest.dropWhile isWordChar) :=
        (split ▸ goesOn).behind
      rw [Cursor.readTokens_eq, goesOn.readToken notBlank, Cursor.readTokenAt, noMark]
      simp [isPart, notQuote, wordRead, sliced, ih remaining, Except.map]
  | case7 position character rest notBlank noMark notQuote notPart =>
      rw [Cursor.readTokens_eq, goesOn.readToken notBlank, Cursor.readTokenAt, noMark]
      simp [notPart, notQuote, Except.map]

end GoesOn

/-- Both scanners agree, on texts with tokens and on others, so no slice falls
inside a character. -/
theorem Cursor.tokenize_eq (text : String) :
    Cursor.tokenize text = some (IssueQuery.tokenize text) := by
  rw [Cursor.tokenize, (GoesOn.start text).readTokens]
  rfl

/-- Splitting a text into tokens inverts laying tokens out: a text has the tokens
of its well-formed layouts at their positions, then its end, and no others. -/
theorem tokenize_inverts_layout (text : String) :
    (∀ tokens finish, tokenize text = .ok ⟨tokens, finish⟩ ↔
      (∃ layout : Layout, layout.WellFormed ∧ layout.characters = text.toList ∧
        layout.tokensFrom 0 = tokens) ∧ finish = text.utf8ByteSize) ∧
      Cursor.tokenize text = some (tokenize text) := by
  refine ⟨fun tokens finish => ?_, Cursor.tokenize_eq text⟩
  rw [← scan_eq_ok_iff]
  constructor
  · intro tokenized
    obtain ⟨located, scanned, equal⟩ := bind_eq_ok_iff.mp tokenized
    cases equal
    exact ⟨scanned, rfl⟩
  · rintro ⟨scanned, rfl⟩
    exact bind_eq_ok_iff.mpr ⟨tokens, scanned, rfl⟩

end IssueQuery
