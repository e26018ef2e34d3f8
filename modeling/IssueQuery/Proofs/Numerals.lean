import IssueQuery.Text.Numeral

namespace IssueQuery.Text

/-! Runs of characters of one kind, and decimal numerals as they are written. -/

section Runs

variable {kind : Char → Bool} {run rest : List Char}

/-- A run ends where its kind does. -/
theorem takeWhile_run (ofKind : ∀ character ∈ run, kind character = true)
    (stops : ∀ character ∈ rest.head?, kind character = false) :
    (run ++ rest).takeWhile kind = run := by
  rw [List.takeWhile_append_of_pos ofKind]
  cases rest with
  | nil => simp
  | cons character rest => simp [stops character rfl]

theorem dropWhile_run (ofKind : ∀ character ∈ run, kind character = true)
    (stops : ∀ character ∈ rest.head?, kind character = false) :
    (run ++ rest).dropWhile kind = rest := by
  rw [List.dropWhile_append_of_pos ofKind]
  cases rest with
  | nil => simp
  | cons character rest => simp [stops character rfl]

end Runs

theorem digitsValue_eq_ofDigitChars (digits : List Char) :
    digitsValue digits = Nat.ofDigitChars 10 digits 0 := by
  rw [Nat.ofDigitChars_eq_foldl, digitsValue]
  congr
  funext value digit
  rw [Nat.mul_comm]

variable {number : Nat}

theorem toList_toString : (toString number).toList = Nat.toDigits 10 number := by
  rw [Nat.toString_eq_ofList_toDigits, String.toList_ofList]

@[simp] theorem digitsValue_toDigits : digitsValue (Nat.toDigits 10 number) = number := by
  rw [digitsValue_eq_ofDigitChars, Nat.ofDigitChars_ten_toDigits]

theorem isDigit_of_mem_toDigits {digit : Char} (member : digit ∈ Nat.toDigits 10 number) :
    digit.isDigit = true :=
  Nat.isDigit_of_mem_toDigits (by decide) (by decide) member

theorem exists_toDigits_eq_cons (number : Nat) :
    ∃ first rest, Nat.toDigits 10 number = first :: rest ∧ first.isDigit = true := by
  obtain ⟨first, rest, digits⟩ :=
    List.exists_cons_of_ne_nil (Nat.toDigits_ne_nil (n := number) (b := 10))
  exact ⟨first, rest, digits, isDigit_of_mem_toDigits (digits ▸ List.mem_cons_self)⟩

/-- A written numeral has no zero in front. -/
theorem head_toDigits_ne_zero (positive : 0 < number) :
    (Nat.toDigits 10 number).head? ≠ some '0' := by
  induction number using Nat.strongRecOn with
  | ind number ih =>
      rw [Nat.toDigits_eq_if (by decide)]
      split
      · rename_i small
        have digits : ∀ digit < 10, 0 < digit → digit.digitChar ≠ '0' := by decide
        simpa using digits number small positive
      · rename_i large
        have quotient := ih (number / 10) (by omega) (by omega)
        obtain ⟨first, rest, spelled, -⟩ := exists_toDigits_eq_cons (number / 10)
        rw [spelled] at quotient ⊢
        simpa using quotient

variable {text : String}

/-- Whether a text is a number written in decimal digits, of which there is at least one.
A plus sign may stand in front. -/
def WritesNumber (text : String) (number : Nat) : Prop :=
  ∃ sign digits : List Char, text.toList = sign ++ digits ∧ (sign = [] ∨ sign = ['+']) ∧
    digits ≠ [] ∧ (∀ digit ∈ digits, digit.isDigit = true) ∧
    Nat.ofDigitChars 10 digits 0 = number

theorem natural?_eq {sign digits : List Char} (spelled : text.toList = sign ++ digits)
    (isSign : sign = ['+'] ∨ sign = [] ∧ digits.head? ≠ some '+') :
    natural? text =
      if digits ≠ [] ∧ digits.all Char.isDigit then some (digitsValue digits) else none := by
  unfold natural?
  rcases isSign with rfl | ⟨rfl, unsigned⟩
  · rw [spelled]
    rfl
  · rw [spelled, List.nil_append]
    dsimp only
    split
    · exact absurd rfl unsigned
    · rfl

theorem natural?_eq_some_iff : natural? text = some number ↔ WritesNumber text number := by
  constructor
  · intro read
    obtain ⟨sign, digits, spelled, isSign⟩ : ∃ sign digits : List Char,
        text.toList = sign ++ digits ∧ (sign = ['+'] ∨ sign = [] ∧ digits.head? ≠ some '+') := by
      by_cases signed : text.toList.head? = some '+'
      · obtain ⟨rest, spelled⟩ := List.head?_eq_some_iff.mp signed
        exact ⟨['+'], rest, spelled, .inl rfl⟩
      · exact ⟨[], text.toList, rfl, .inr ⟨rfl, signed⟩⟩
    rw [natural?_eq spelled isSign] at read
    obtain ⟨⟨present, areDigits⟩, same⟩ := Option.ite_none_right_eq_some.mp read
    refine ⟨sign, digits, spelled, isSign.symm.imp And.left id, present,
      List.all_eq_true.mp areDigits, ?_⟩
    rw [← digitsValue_eq_ofDigitChars, Option.some.inj same]
  · rintro ⟨sign, digits, spelled, isSign, present, areDigits, rfl⟩
    have unsigned : digits.head? ≠ some '+' := by
      intro head
      cases areDigits '+' (List.mem_of_mem_head? head)
    rw [natural?_eq spelled (isSign.symm.imp id fun absent => ⟨absent, unsigned⟩),
      if_pos ⟨present, List.all_eq_true.mpr areDigits⟩, digitsValue_eq_ofDigitChars]

theorem word?_eq_some_iff {word : UInt64} :
    word? text = some word ↔ WritesNumber text word.toNat := by
  unfold word?
  constructor
  · intro read
    split at read
    · rename_i value written
      split at read
      · rename_i small
        cases read
        have same : value.toUInt64.toNat = value := UInt64.toNat_ofNat_of_lt' small
        rw [same]
        exact natural?_eq_some_iff.mp written
      · cases read
    · cases read
  · intro written
    rw [natural?_eq_some_iff.mpr written]
    simp [word.toNat_lt_size]

theorem writesNumber_toString (number : Nat) : WritesNumber (toString number) number :=
  ⟨[], Nat.toDigits 10 number, toList_toString, .inl rfl, Nat.toDigits_ne_nil,
    fun _ member => isDigit_of_mem_toDigits member, Nat.ofDigitChars_ten_toDigits⟩

-- The bounds of 64-bit numbers, in the form arithmetic takes them.
theorem intPow_two_63 : Int.pow 2 63 = 9223372036854775808 := rfl

theorem intPow_two_64 : Int.pow 2 64 = 18446744073709551616 := rfl

theorem natPow_two_63 : Nat.pow 2 63 = 9223372036854775808 := rfl

theorem natPow_two_64 : Nat.pow 2 64 = 18446744073709551616 := rfl

end IssueQuery.Text
