import IssueQuery.Toml.Text

namespace IssueQuery.Toml

/-! Text values of settings files read back.

Which form a text is written in depends on its characters.  In each of the forms the
characters it was chosen for stand for themselves, so reading gives the text again.
-/

variable {text rest : List Char} {character : Char}

/-- Whether no mark follows that could be taken for part of the closing ones. -/
def Apart (rest : List Char) : Prop := ∀ character ∈ rest.head?, character ≠ '"' ∧ character ≠ '\''

theorem Apart.ne_cons (apart : Apart rest) {mark : Char} (isMark : mark = '"' ∨ mark = '\'')
    (others : List Char) : rest ≠ mark :: others := by
  rintro rfl
  obtain ⟨noQuotation, noApostrophe⟩ := apart mark rfl
  exact isMark.elim noQuotation noApostrophe

/-- Puts a character in front of what was read. -/
def push (character : Char) (read : Option (List Char × List Char)) :
    Option (List Char × List Char) :=
  read.map fun (text, remaining) => (character :: text, remaining)

theorem readLiteral?_literal (plain : ∀ character ∈ text, isControl character = false)
    (unmarked : '\'' ∉ text) : readLiteral? (text ++ '\'' :: rest) = some (text, rest) := by
  induction text with
  | nil => rfl
  | cons character others ih =>
      obtain ⟨first, following⟩ := List.forall_mem_cons.mp plain
      rw [List.mem_cons, not_or] at unmarked
      rw [List.cons_append, readLiteral?]
      · rw [first, ih following unmarked.2]
        rfl
      · exact Ne.symm unmarked.1

theorem hasTriple_tail {mark : Char} (apart : hasTriple mark (character :: text) = false) :
    hasTriple mark text = false := by
  rcases text with _ | ⟨second, _ | ⟨third, others⟩⟩
  · rfl
  · rfl
  · rw [hasTriple, Bool.or_eq_false_iff] at apart
    exact apart.2

theorem readLiteralLines?_closing (apart : Apart rest) (count : Nat) (few : count ≤ 2) :
    readLiteralLines? (List.replicate count '\'' ++ (tripleApostrophes ++ rest)) =
      some (List.replicate count '\'', rest) := by
  have unmarked := apart.ne_cons (.inr rfl)
  rcases count with _ | _ | _ | count
  · change readLiteralLines? ('\'' :: '\'' :: '\'' :: rest) = _
    rw [readLiteralLines?]
    · rfl
    · exact fun _ => unmarked _
    · exact unmarked
  · change readLiteralLines? ('\'' :: '\'' :: '\'' :: '\'' :: rest) = _
    rw [readLiteralLines?]
    · rfl
    · exact unmarked
  · rfl
  · omega

theorem readLiteralLines?_cons (plain : isControl character = false ∨ character = '\n')
    (inside : ∀ others, character = '\'' → rest ≠ '\'' :: '\'' :: others) :
    readLiteralLines? (character :: rest) = push character (readLiteralLines? rest) := by
  have allowed : ¬ (isControl character && character != '\n') = true := by
    rcases plain with plain | rfl
    · simp [plain]
    · decide
  rw [readLiteralLines?]
  · rw [if_neg allowed]
    rfl
  · exact fun _ mark => inside _ mark
  · exact fun _ mark => inside _ mark
  · exact fun _ mark => inside _ mark
  · rintro _ rfl
    exact absurd plain (by decide)

theorem readLiteralLines?_literal
    (plain : ∀ character ∈ text, isControl character = false ∨ character = '\n')
    (noTriple : hasTriple '\'' text = false) (apart : Apart rest) :
    readLiteralLines? (text ++ (tripleApostrophes ++ rest)) = some (text, rest) := by
  induction text with
  | nil => exact readLiteralLines?_closing apart 0 (by decide)
  | cons character others ih =>
      obtain ⟨first, following⟩ := List.forall_mem_cons.mp plain
      have kept := ih following (hasTriple_tail noTriple)
      by_cases alone : character = '\'' ∧ (others = [] ∨ others = ['\''])
      · obtain ⟨rfl, rfl | rfl⟩ := alone
        · exact readLiteralLines?_closing apart 1 (by decide)
        · exact readLiteralLines?_closing apart 2 (by decide)
      · rw [List.cons_append, readLiteralLines?_cons first, kept]
        · rfl
        · rintro behind rfl opened
          rcases others with _ | ⟨second, _ | ⟨third, others⟩⟩
          · exact alone ⟨rfl, .inl rfl⟩
          · cases opened
            exact alone ⟨rfl, .inr rfl⟩
          · cases opened
            cases noTriple

/-- How a character other than the mark stands in a basic form. -/
def escaped (keepsBreaks : Bool) (character : Char) : List Char :=
  if character = '\n' && keepsBreaks then ['\n']
  else
    match character with
    | '\x08' => ['\\', 'b']
    | '\t' => ['\\', 't']
    | '\n' => ['\\', 'n']
    | '\x0c' => ['\\', 'f']
    | '\r' => ['\\', 'r']
    | '\\' => ['\\', '\\']
    | other =>
        if isControl other then
          ['\\', 'u', '0', '0', upperHex (other.toNat / 16), upperHex (other.toNat % 16)]
        else [other]

theorem writeBasic_cons {keepsBreaks : Bool} {allowed left : Nat} (notMark : character ≠ '"') :
    writeBasic keepsBreaks allowed left (character :: text) =
      escaped keepsBreaks character ++ writeBasic keepsBreaks allowed allowed text := by
  rw [writeBasic.eq_def]
  exact if_neg notMark

theorem writeBasic_mark_escaped {keepsBreaks : Bool} {allowed : Nat} :
    writeBasic keepsBreaks allowed 0 ('"' :: text) =
      '\\' :: ('"' :: writeBasic keepsBreaks allowed allowed text) := by
  rw [writeBasic.eq_def]
  exact if_pos rfl

theorem writeBasic_mark {keepsBreaks : Bool} {allowed left : Nat} :
    writeBasic keepsBreaks allowed (left + 1) ('"' :: text) =
      '"' :: writeBasic keepsBreaks allowed left text := by
  rw [writeBasic.eq_def]
  exact if_pos rfl

theorem charOfDigits?_control (control : isControl character = true) :
    charOfDigits? ['0', '0', upperHex (character.toNat / 16), upperHex (character.toNat % 16)] =
      some character := by
  have all : ∀ code < 0x80,
      charOfDigits? ['0', '0', upperHex (code / 16), upperHex (code % 16)] =
        some (Char.ofNat code) := by decide
  have small : character.toNat < 0x80 := by
    simp only [isControl, Bool.or_eq_true, Bool.and_eq_true, decide_eq_true_eq,
      beq_iff_eq] at control
    omega
  rw [all _ small, Char.ofNat_toNat]

/-- What an escape is: it stands for a character, and its backslash ends no line. -/
structure Escapes (tail : List Char) (character : Char) : Prop where
  read (rest : List Char) : readEscape? (tail ++ rest) = some (character, rest)
  goesOn (rest : List Char) : endsLine (tail ++ rest) = false

theorem escaped_cases (keepsBreaks : Bool) (character : Char) :
    (escaped keepsBreaks character = [character] ∧ character ≠ '\\' ∧
      (isControl character = false ∨ character = '\n' ∧ keepsBreaks = true)) ∨
    ∃ tail, escaped keepsBreaks character = '\\' :: tail ∧ Escapes tail character := by
  unfold escaped
  split
  · rename_i kept
    simp only [Bool.and_eq_true, decide_eq_true_eq] at kept
    obtain ⟨rfl, keeps⟩ := kept
    exact .inl ⟨rfl, by decide, .inr ⟨rfl, keeps⟩⟩
  · split
    case h_7 =>
      split
      · rename_i control
        refine .inr ⟨_, rfl, ?_, ?_⟩
        · intro rest
          have read := congrArg (Option.map (·, rest)) (charOfDigits?_control control)
          exact read
        · intro rest
          rfl
      · rename_i notBackslash notControl
        exact .inl ⟨rfl, notBackslash, .inl (Bool.eq_false_iff.mpr notControl)⟩
    all_goals exact .inr ⟨_, rfl, fun _ => rfl, fun _ => rfl⟩

theorem readBasic?_plain (plain : isControl character = false) (notMark : character ≠ '"')
    (notBackslash : character ≠ '\\') :
    readBasic? (character :: rest) = push character (readBasic? rest) := by
  rw [readBasic?]
  · rw [plain]
    rfl
  · exact notMark
  · exact notBackslash

theorem readBasic?_escape {behind : List Char}
    (read : readEscape? rest = some (character, behind)) :
    readBasic? ('\\' :: rest) = push character (readBasic? behind) := by
  rw [readBasic?]
  split
  · rename_i unread
    rw [read] at unread
    cases unread
  · rename_i same
    rw [read] at same
    cases same
    rfl

theorem readBasic?_written :
    readBasic? (writeBasic false 0 0 text ++ '"' :: rest) = some (text, rest) := by
  induction text with
  | nil => rw [writeBasic, List.nil_append, readBasic?]
  | cons character others ih =>
      by_cases mark : character = '"'
      · subst mark
        rw [writeBasic_mark_escaped, List.cons_append, List.cons_append, readBasic?_escape rfl, ih]
        rfl
      · rw [writeBasic_cons mark]
        rcases escaped_cases false character with
          ⟨itself, notBackslash, plain⟩ | ⟨tail, hidden, escapes⟩
        · have plain := plain.resolve_right (by simp)
          rw [itself, List.singleton_append, List.cons_append,
            readBasic?_plain plain mark notBackslash, ih]
          rfl
        · rw [hidden, List.append_assoc, List.cons_append,
            readBasic?_escape (escapes.read _), ih]
          rfl

theorem readBasicLines?_closing (apart : Apart rest) (count : Nat) (few : count ≤ 2) :
    readBasicLines? (List.replicate count '"' ++ (tripleQuotes ++ rest)) =
      some (List.replicate count '"', rest) := by
  have unmarked := apart.ne_cons (.inl rfl)
  rcases count with _ | _ | _ | count
  · change readBasicLines? ('"' :: '"' :: '"' :: rest) = _
    rw [readBasicLines?]
    · rfl
    · exact fun _ => unmarked _
    · exact unmarked
  · change readBasicLines? ('"' :: '"' :: '"' :: '"' :: rest) = _
    rw [readBasicLines?]
    · rfl
    · exact unmarked
  · change readBasicLines? ('"' :: '"' :: '"' :: '"' :: '"' :: rest) = _
    rw [readBasicLines?]
    rfl
  · omega

theorem readBasicLines?_cons (plain : isControl character = false ∨ character = '\n')
    (notBackslash : character ≠ '\\')
    (inside : ∀ others, character = '"' → rest ≠ '"' :: '"' :: others) :
    readBasicLines? (character :: rest) = push character (readBasicLines? rest) := by
  have allowed : ¬ (isControl character && character != '\n') = true := by
    rcases plain with plain | rfl
    · simp [plain]
    · decide
  rw [readBasicLines?]
  · rw [if_neg allowed]
    rfl
  · exact fun _ mark => inside _ mark
  · exact fun _ mark => inside _ mark
  · exact fun _ mark => inside _ mark
  · rintro _ rfl
    exact absurd plain (by decide)
  · exact notBackslash

theorem readBasicLines?_escape {behind : List Char}
    (read : readEscape? rest = some (character, behind)) (goesOn : endsLine rest = false) :
    readBasicLines? ('\\' :: rest) = push character (readBasicLines? behind) := by
  rw [readBasicLines?, goesOn]
  simp only [Bool.false_eq_true, if_false]
  split
  · rename_i unread
    rw [read] at unread
    cases unread
  · rename_i same
    rw [read] at same
    cases same
    rfl

/-- Where no further mark may stand for itself, none opens what is written. -/
theorem head_writeBasic_ne {keepsBreaks : Bool} {allowed left : Nat}
    (closed : left = 0 ∨ text.head? ≠ some '"') (something : text ≠ []) (others : List Char) :
    writeBasic keepsBreaks allowed left text ++ rest ≠ '"' :: others := by
  cases text with
  | nil => exact absurd rfl something
  | cons character text =>
      by_cases mark : character = '"'
      · subst mark
        obtain rfl := closed.resolve_right (by simp)
        rw [writeBasic_mark_escaped]
        nofun
      · rw [writeBasic_cons mark]
        rcases escaped_cases keepsBreaks character with ⟨itself, -⟩ | ⟨tail, hidden, -⟩
        · rw [itself]
          rintro ⟨⟩
          exact mark rfl
        · rw [hidden]
          nofun

theorem not_two_marks {left : Nat} (few : left ≤ 1)
    (inside : ¬ (text = [] ∨ text = ['"'] ∧ left = 1)) (others : List Char) :
    writeBasic true 2 left text ++ rest ≠ '"' :: '"' :: others := by
  rw [not_or, not_and] at inside
  obtain ⟨something, notLast⟩ := inside
  cases text with
  | nil => exact absurd rfl something
  | cons character text =>
      by_cases further : character = '"' ∧ left = 1
      · obtain ⟨rfl, rfl⟩ := further
        have more : text ≠ [] := fun nothing => notLast (by rw [nothing]) rfl
        rw [writeBasic_mark, List.cons_append]
        rintro opened
        exact head_writeBasic_ne (.inl rfl) more others (List.cons.inj opened).2
      · refine head_writeBasic_ne ?_ (by simp) ('"' :: others)
        rw [List.head?_cons, Ne, Option.some.injEq]
        rcases Nat.le_one_iff_eq_zero_or_eq_one.mp few with zero | one
        · exact .inl zero
        · exact .inr fun mark => further ⟨mark, one⟩

theorem readBasicLines?_written {left : Nat} (few : left ≤ 2) (apart : Apart rest) :
    readBasicLines? (writeBasic true 2 left text ++ (tripleQuotes ++ rest)) =
      some (text, rest) := by
  -- `left` marks may still stand for themselves, which is too few for a closing.
  induction text generalizing left with
  | nil => exact readBasicLines?_closing apart 0 (by decide)
  | cons character others ih =>
      by_cases mark : character = '"'
      · subst mark
        rcases left with _ | left
        · rw [writeBasic_mark_escaped, List.cons_append, List.cons_append,
            readBasicLines?_escape rfl rfl, ih (Nat.le_refl 2)]
          rfl
        · rw [writeBasic_mark, List.cons_append]
          by_cases alone : others = [] ∨ others = ['"'] ∧ left = 1
          · rcases alone with rfl | ⟨rfl, rfl⟩
            · exact readBasicLines?_closing apart 1 (by decide)
            · exact readBasicLines?_closing apart 2 (by decide)
          · rw [readBasicLines?_cons (.inl rfl) (by decide), ih (by omega)]
            · rfl
            · intro behind _
              exact not_two_marks (by omega) alone behind
      · rw [writeBasic_cons mark]
        rcases escaped_cases true character with
          ⟨itself, notBackslash, plain⟩ | ⟨tail, hidden, escapes⟩
        · rw [itself, List.singleton_append, List.cons_append,
            readBasicLines?_cons (plain.imp_right And.left) notBackslash
              (fun _ same => absurd same mark), ih (Nat.le_refl 2)]
          rfl
        · rw [hidden, List.append_assoc, List.cons_append,
            readBasicLines?_escape (escapes.read _) (escapes.goesOn _), ih (Nat.le_refl 2)]
          rfl

theorem plain_of_needsEscapes (noEscapes : needsEscapes text = false) :
    ∀ character ∈ text, isControl character = false ∨ character = '\n' := by
  intro character member
  have plain := List.any_eq_false.mp noEscapes character member
  cases control : isControl character with
  | false => exact .inl rfl
  | true => exact .inr (by simpa [control] using plain)

/-- Whether a text starts neither with a line break nor with part of one. -/
def StartsInside (text : List Char) : Prop :=
  ∀ character ∈ text.head?, character ≠ '\n' ∧ character ≠ '\r'

theorem skipFirstBreak_opened {hasBreak : Bool}
    (inside : hasBreak = false → StartsInside text) :
    skipFirstBreak ((if hasBreak then ['\n'] else []) ++ text) = text := by
  cases hasBreak with
  | true => rfl
  | false =>
      change skipFirstBreak text = text
      unfold skipFirstBreak
      split
      · exact absurd rfl (inside rfl _ rfl).1
      · exact absurd rfl (inside rfl _ rfl).2
      · rfl

theorem startsInside_writeBasic (unbroken : '\n' ∉ text) :
    StartsInside (writeBasic true 2 2 text ++ (tripleQuotes ++ rest)) := by
  intro first starts
  cases text with
  | nil =>
      cases starts
      decide
  | cons character text =>
      by_cases mark : character = '"'
      · subst mark
        rw [writeBasic_mark] at starts
        cases starts
        decide
      · rw [writeBasic_cons mark] at starts
        rcases escaped_cases true character with ⟨itself, -, plain⟩ | ⟨tail, hidden, -⟩
        · rw [itself] at starts
          cases starts
          have noBreak : first ≠ '\n' := fun same => unbroken (same ▸ List.mem_cons_self)
          refine ⟨noBreak, ?_⟩
          rintro rfl
          rcases plain with plain | ⟨same, -⟩
          · exact absurd plain (by decide)
          · exact absurd same (by decide)
        · rw [hidden] at starts
          cases starts
          decide

theorem startsInside_literal (unbroken : '\n' ∉ text)
    (plain : ∀ character ∈ text, isControl character = false ∨ character = '\n') :
    StartsInside (text ++ (tripleApostrophes ++ rest)) := by
  intro first starts
  cases text with
  | nil =>
      cases starts
      decide
  | cons character text =>
      cases starts
      have noBreak : first ≠ '\n' := fun same => unbroken (same ▸ List.mem_cons_self)
      refine ⟨noBreak, ?_⟩
      rintro rfl
      exact absurd (plain _ List.mem_cons_self) (by decide)

theorem readText?_basic (apart : Apart rest) :
    readText? ('"' :: (writeBasic false 0 0 text ++ '"' :: rest)) = some (text, rest) := by
  rw [readText?]
  · exact readBasic?_written
  · intro behind opened
    cases text with
    | nil => exact apart.ne_cons (.inl rfl) behind (List.cons.inj opened).2
    | cons character text => exact head_writeBasic_ne (.inl rfl) (by simp) _ opened

theorem readText?_literal (plain : ∀ character ∈ text, isControl character = false)
    (unmarked : '\'' ∉ text) (apart : Apart rest) :
    readText? ('\'' :: (text ++ '\'' :: rest)) = some (text, rest) := by
  rw [readText?]
  · exact readLiteral?_literal plain unmarked
  · intro behind opened
    cases text with
    | nil => exact apart.ne_cons (.inr rfl) behind (List.cons.inj opened).2
    | cons character text =>
        have same : character = '\'' := (List.cons.inj opened).1
        exact unmarked (same ▸ List.mem_cons_self)

theorem readText?_basicLines (apart : Apart rest) :
    readText? (tripleQuotes ++ ((if text.contains '\n' then ['\n'] else []) ++
      (writeBasic true 2 2 text ++ (tripleQuotes ++ rest)))) = some (text, rest) := by
  have opened : skipFirstBreak ((if text.contains '\n' then ['\n'] else []) ++
      (writeBasic true 2 2 text ++ (tripleQuotes ++ rest))) =
        writeBasic true 2 2 text ++ (tripleQuotes ++ rest) :=
    skipFirstBreak_opened fun unbroken => startsInside_writeBasic (by simpa using unbroken)
  have dispatched (body : List Char) :
      readText? (tripleQuotes ++ body) = readBasicLines? (skipFirstBreak body) := rfl
  rw [dispatched, opened, readBasicLines?_written (Nat.le_refl 2) apart]

theorem readText?_literalLines
    (plain : ∀ character ∈ text, isControl character = false ∨ character = '\n')
    (noTriple : hasTriple '\'' text = false) (apart : Apart rest) :
    readText? (tripleApostrophes ++ ((if text.contains '\n' then ['\n'] else []) ++
      (text ++ (tripleApostrophes ++ rest)))) = some (text, rest) := by
  have opened : skipFirstBreak ((if text.contains '\n' then ['\n'] else []) ++
      (text ++ (tripleApostrophes ++ rest))) = text ++ (tripleApostrophes ++ rest) :=
    skipFirstBreak_opened fun unbroken => startsInside_literal (by simpa using unbroken) plain
  have dispatched (body : List Char) :
      readText? (tripleApostrophes ++ body) = readLiteralLines? (skipFirstBreak body) := rfl
  rw [dispatched, opened, readLiteralLines?_literal plain noTriple apart]

/-- A text comes back from any of its written forms. -/
theorem readText?_writeText (apart : Apart rest) :
    readText? (writeText text ++ rest) = some (text, rest) := by
  have basic : readText? ('"' :: writeBasic false 0 0 text ++ ['"'] ++ rest) =
      some (text, rest) := by
    rw [List.append_assoc]
    exact readText?_basic apart
  have basicLines := @readText?_basicLines text rest apart
  simp only [← List.append_assoc] at basicLines
  unfold writeText
  simp only
  split
  · exact basic
  split
  · rename_i chosen
    simp only [Bool.and_eq_true, Bool.not_eq_true'] at chosen
    obtain ⟨⟨noEscapes, unmarked⟩, unbroken⟩ := chosen
    rw [List.append_assoc]
    refine readText?_literal ?_ (by simpa using unmarked) apart
    intro character member
    refine (plain_of_needsEscapes noEscapes character member).resolve_right ?_
    rintro rfl
    exact absurd member (by simpa using unbroken)
  split
  · exact basicLines
  split
  · rename_i chosen
    simp only [Bool.and_eq_true, Bool.not_eq_true'] at chosen
    simp only [List.append_assoc]
    exact readText?_literalLines (plain_of_needsEscapes chosen.1) chosen.2 apart
  split
  · rename_i broken
    rw [if_pos broken] at basicLines
    exact basicLines
  · exact basic

end IssueQuery.Toml
