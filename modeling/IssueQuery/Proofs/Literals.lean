import IssueQuery.Json.Printer
import IssueQuery.Json.Source
import IssueQuery.Proofs.Numerals
import Mathlib.Data.String.Basic

namespace IssueQuery.Json

/-! Strings and whole numbers in JSON text: what is written is read again. -/

namespace Source

theorem unitValue?_control {value : Nat} (control : value < 0x20) :
    unitValue? '0' '0' (hexDigit (value / 16)) (hexDigit (value % 16)) = some value := by
  have all : ∀ value < 0x20,
      unitValue? '0' '0' (hexDigit (value / 16)) (hexDigit (value % 16)) = some value := by decide
  exact all value control

/-- Puts a piece in front of what was read. -/
def push (piece : Piece) (read : Option (List Piece × List Char)) :
    Option (List Piece × List Char) :=
  read.map fun (pieces, remaining) => (piece :: pieces, remaining)

theorem readPieces?_of_raw {character : Char} (notMark : character ≠ '"')
    (notBackslash : character ≠ '\\') (printable : ¬ character.toNat < 0x20) (rest : List Char) :
    readPieces? (character :: rest) = push (.char character) (readPieces? rest) := by
  rw [readPieces?.eq_def]
  split
  · rename_i empty
    cases empty
  · rename_i same
    cases same
    exact absurd rfl notMark
  · rename_i same
    cases same
    exact absurd rfl notBackslash
  · rename_i same
    cases same
    exact absurd rfl notBackslash
  · rename_i same
    cases same
    simp only [printable, decide_false, Bool.false_or, beq_iff_eq, notBackslash, if_false]
    cases readPieces? rest <;> rfl

theorem readPieces?_of_short {letter value : Char} (notUnit : letter ≠ 'u')
    (stands : unescape? letter = some value) (rest : List Char) :
    readPieces? ('\\' :: letter :: rest) = push (.char value) (readPieces? rest) := by
  rw [readPieces?.eq_def]
  split
  · rename_i empty
    cases empty
  · rename_i same
    cases same
  · rename_i same
    cases same
    exact absurd rfl notUnit
  · rename_i same
    cases same
    rw [stands]
    cases readPieces? rest <;> rfl
  · rename_i unescaped same
    cases same
    exact (unescaped letter rest rfl rfl).elim

def pieceOf (character : Char) : Piece :=
  if character.toNat < 0x20 ∧ character ∉ ['\x08', '\x0c', '\n', '\r', '\t'] then
    .unit character.toNat
  else .char character

theorem readPieces?_escapeChar (character : Char) (rest : List Char) :
    readPieces? (escapeChar character ++ rest) =
      push (pieceOf character) (readPieces? rest) := by
  unfold escapeChar
  split
  · exact readPieces?_of_short (by decide) rfl rest
  · exact readPieces?_of_short (by decide) rfl rest
  · exact readPieces?_of_short (by decide) rfl rest
  · exact readPieces?_of_short (by decide) rfl rest
  · exact readPieces?_of_short (by decide) rfl rest
  · exact readPieces?_of_short (by decide) rfl rest
  · exact readPieces?_of_short (by decide) rfl rest
  · rename_i notMark notBackslash _ _ _ _ _
    split
    · rename_i control
      have unit : pieceOf character = .unit character.toNat := by
        refine if_pos ⟨control, ?_⟩
        simp_all
      rw [unit, List.cons_append, List.cons_append, List.cons_append, List.cons_append,
        List.cons_append, List.cons_append, List.nil_append, readPieces?,
        unitValue?_control control]
      cases readPieces? rest <;> rfl
    · rename_i printable
      have char : pieceOf character = .char character :=
        if_neg fun control => printable control.1
      rw [char]
      exact readPieces?_of_raw notMark notBackslash printable rest

theorem readPieces?_escaped (characters rest : List Char) :
    readPieces? (characters.flatMap escapeChar ++ '"' :: rest) =
      some (characters.map pieceOf, rest) := by
  induction characters with
  | nil => rfl
  | cons character characters ih =>
      rw [List.flatMap_cons, List.append_assoc, readPieces?_escapeChar, ih]
      rfl

theorem joinPieces?_unit {value : Nat} (control : value < 0x20) (pieces : List Piece) :
    joinPieces? (.unit value :: pieces) = (joinPieces? pieces).map (Char.ofNat value :: ·) := by
  have notHigh : isHighSurrogate value = false := by
    simp [isHighSurrogate]
    omega
  have notLow : isLowSurrogate value = false := by
    simp [isLowSurrogate]
    omega
  cases pieces with
  | nil => simp [joinPieces?, notHigh, notLow]
  | cons piece rest =>
      cases piece with
      | char value => simp [joinPieces?, notHigh, notLow]
      | unit low => simp [joinPieces?, notHigh, notLow]

theorem joinPieces?_pieceOf (character : Char) (pieces : List Piece) :
    joinPieces? (pieceOf character :: pieces) = (joinPieces? pieces).map (character :: ·) := by
  unfold pieceOf
  split
  · rename_i control
    rw [joinPieces?_unit control.1, Char.ofNat_toNat]
  · rfl

theorem joinPieces?_map_pieceOf (characters : List Char) :
    joinPieces? (characters.map pieceOf) = some characters := by
  induction characters with
  | nil => rfl
  | cons character characters ih => rw [List.map_cons, joinPieces?_pieceOf, ih, Option.map_some]

/-- Every text comes back from its literal, whatever characters it has. -/
theorem readString?_written (value : String) (rest : List Char) :
    readString? (value.toList.flatMap escapeChar ++ '"' :: rest) = some (some value, rest) := by
  rw [readString?, readPieces?_escaped]
  simp only [joinPieces?_map_pieceOf, Option.map_some, String.ofList_toList]

/-- What stands behind a number does not go on with it. -/
def EndsNumber (rest : List Char) : Prop :=
  ∀ character ∈ rest.head?, character.isDigit = false ∧ character ∉ ['.', 'e', 'E']

end Source

/-- A whole number that fits into 64 bits, signed or unsigned. -/
def Number.Fits : Number → Prop
  | .int value => -Int.pow 2 63 ≤ value ∧ value < Int.pow 2 64
  | .float _ => False

namespace Source

section Whole

variable {rest : List Char} (ends : ∀ character ∈ rest.head?, character.isDigit = false)
  (number : Nat)

include ends

theorem readDigits?_toDigits :
    readDigits? (Nat.toDigits 10 number ++ rest) = some (Nat.toDigits 10 number, rest) := by
  have digits : ∀ digit ∈ Nat.toDigits 10 number, digit.isDigit = true :=
    fun _ => Text.isDigit_of_mem_toDigits
  obtain ⟨first, others, spelled, -⟩ := Text.exists_toDigits_eq_cons number
  rw [readDigits?, Text.takeWhile_run digits ends, Text.dropWhile_run digits ends, spelled]

theorem readWhole?_toDigits :
    readWhole? (Nat.toDigits 10 number ++ rest) = some (Nat.toDigits 10 number, rest) := by
  rcases Nat.eq_zero_or_pos number with rfl | positive
  · rw [Nat.toDigits_zero, List.cons_append, List.nil_append]
    cases rest with
    | nil => rfl
    | cons next rest => simp [readWhole?, ends next rfl]
  · have notZero := Text.head_toDigits_ne_zero positive
    have read := readDigits?_toDigits ends number
    obtain ⟨first, others, spelled, -⟩ := Text.exists_toDigits_eq_cons number
    rw [spelled] at notZero read ⊢
    rw [← read, readWhole?.eq_def]
    split
    · rename_i same
      rw [(List.cons.inj same).1] at notZero
      exact absurd rfl notZero
    · rfl

end Whole

section Ends

variable {rest : List Char} (ends : EndsNumber rest)

include ends

theorem readDecimals?_of_ends : readDecimals? rest = some (none, rest) := by
  unfold readDecimals?
  split
  · exact absurd (ends '.' rfl).2 (by decide)
  · rfl

theorem readExponent?_of_ends : readExponent? rest = some (none, rest) := by
  have plain (mark : Char) (behind : List Char) (spelled : rest = mark :: behind) :
      ¬ (mark = 'e' ∨ mark = 'E') := by
    intro isMark
    have other := (ends mark (by rw [spelled]; rfl)).2
    rcases isMark with rfl | rfl
    · exact absurd other (by decide)
    · exact absurd other (by decide)
  unfold readExponent?
  split
  · rw [if_neg (plain _ _ rfl)]
  · rw [if_neg (plain _ _ rfl)]
  · rw [if_neg (plain _ _ rfl)]
  · rfl

end Ends

theorem readNumber?_toDigits {rest : List Char} (ends : EndsNumber rest) (number : Nat) :
    readNumber? (Nat.toDigits 10 number ++ rest) =
      some (⟨false, Nat.toDigits 10 number, none, none⟩, rest) := by
  have whole := readWhole?_toDigits (fun character member => (ends character member).1) number
  obtain ⟨first, others, spelled, isDigit⟩ := Text.exists_toDigits_eq_cons number
  rw [spelled] at whole ⊢
  have notMinus : first ≠ '-' := by
    rintro rfl
    exact absurd isDigit (by decide)
  unfold readNumber?
  split
  rename_i negative unsigned split
  split at split
  · rename_i same
    exact absurd (List.cons.inj same).1 notMinus
  · cases split
    rw [whole]
    simp [readDecimals?_of_ends ends, readExponent?_of_ends ends]

theorem readNumber?_minus_toDigits {rest : List Char} (ends : EndsNumber rest) (number : Nat) :
    readNumber? ('-' :: Nat.toDigits 10 number ++ rest) =
      some (⟨true, Nat.toDigits 10 number, none, none⟩, rest) := by
  have whole := readWhole?_toDigits (fun character member => (ends character member).1) number
  unfold readNumber?
  simp [whole, readDecimals?_of_ends ends, readExponent?_of_ends ends]

end Source

theorem Number.write_ofNat (magnitude : Nat) :
    (Number.int (.ofNat magnitude)).write = Nat.toDigits 10 magnitude :=
  Text.toList_toString

theorem Number.write_negSucc (magnitude : Nat) :
    (Number.int (.negSucc magnitude)).write = '-' :: Nat.toDigits 10 (magnitude + 1) := by
  have digits : (toString (magnitude + 1)).toList = _ := Text.toList_toString
  rw [← digits]
  exact String.toList_append

namespace Source

theorem readNumber?_written {value : Int} (fits : Number.Fits (.int value)) {rest : List Char}
    (ends : EndsNumber rest) :
    ∃ literal, readNumber? ((Number.int value).write ++ rest) = some (literal, rest) ∧
      literal.value? = some (.int value) := by
  obtain ⟨lower, upper⟩ := fits
  cases value with
  | ofNat magnitude =>
      have small : magnitude < Nat.pow 2 64 := by
        rw [Int.ofNat_eq_natCast, Text.intPow_two_64] at upper
        rw [Text.natPow_two_64]
        omega
      refine ⟨_, by rw [Number.write_ofNat]; exact readNumber?_toDigits ends magnitude, ?_⟩
      simp [NumberLiteral.value?, small]
  | negSucc magnitude =>
      have small : magnitude + 1 ≤ Nat.pow 2 63 := by
        rw [Int.negSucc_eq, Text.intPow_two_63] at lower
        rw [Text.natPow_two_63]
        omega
      refine ⟨_, by
        rw [Number.write_negSucc]
        exact readNumber?_minus_toDigits ends (magnitude + 1), ?_⟩
      simp [NumberLiteral.value?, small, Int.negSucc_eq]

end Source

end IssueQuery.Json
