import IssueQuery.Proofs.Numerals
import IssueQuery.Proofs.Quotation
import IssueQuery.Toml.Reader
import IssueQuery.Toml.Writer

namespace IssueQuery.Toml

/-! Documents read back.

A line is written for each entry and read as that entry again, so that a document is read
line by line in the order of its entries.
-/

section Digits

theorem fixedDigits?_rest {count value : Nat} {characters rest : List Char}
    (read : fixedDigits? count characters = some (value, rest)) : rest = characters.drop count := by
  simp only [fixedDigits?] at read
  split at read
  · cases read
    rfl
  · cases read

variable {digits : List Char} (all : ∀ digit ∈ digits, digit.isDigit = true)

include all

theorem digits?_digits (nonempty : digits ≠ []) : digits? Char.isDigit digits = some digits := by
  induction digits with
  | nil => exact absurd rfl nonempty
  | cons first rest ih =>
      obtain ⟨isDigit, others⟩ := List.forall_mem_cons.mp all
      cases rest with
      | nil => rw [digits?, if_pos isDigit]
      | cons second rest =>
          have noSeparator : second ≠ '_' := by
            rintro rfl
            exact absurd (others '_' List.mem_cons_self) (by decide)
          rw [digits?, if_pos isDigit, ih others (by simp)]
          · rfl
          · nofun
          · intro behind opened
            exact noSeparator (List.cons.inj opened).1

theorem valueIn_ten : valueIn 10 digits = Text.digitsValue digits := by
  have general : ∀ start : Nat,
      digits.foldl (fun total digit => total * (10 : Nat) + (digitValue digit : Int)) start =
        (digits.foldl (fun value digit => value * 10 + (digit.toNat - '0'.toNat)) start : Nat) := by
    induction digits with
    | nil => exact fun _ => rfl
    | cons first rest ih =>
        obtain ⟨isDigit, others⟩ := List.forall_mem_cons.mp all
        intro start
        rw [List.foldl_cons, List.foldl_cons, ← ih others, digitValue, if_pos isDigit]
        push_cast
        rfl
  exact general 0

theorem not_mem_digits (mark : Char) (noDigit : mark.isDigit = false) : mark ∉ digits := by
  intro member
  rw [all mark member] at noDigit
  cases noDigit

theorem head?_drop_ne {mark : Char} (noDigit : mark.isDigit = false) (count : Nat) :
    (digits.drop count).head? ≠ some mark := fun starts =>
  not_mem_digits all mark noDigit (List.mem_of_mem_drop (List.mem_of_mem_head? starts))

theorem dropTime?_digits : dropTime? digits = none := by
  cases read : fixedDigits? 2 digits with
  | none => simp [dropTime?, read]
  | some found =>
      obtain ⟨hour, rest⟩ := found
      have starts : rest.head? ≠ some ':' := by
        rw [fixedDigits?_rest read]
        exact head?_drop_ne all rfl 2
      simp [dropTime?, read, starts]

theorem dropDate?_digits : dropDate? digits = none := by
  cases read : fixedDigits? 4 digits with
  | none => simp [dropDate?, read]
  | some found =>
      obtain ⟨year, rest⟩ := found
      have starts : rest.head? ≠ some '-' := by
        rw [fixedDigits?_rest read]
        exact head?_drop_ne all rfl 4
      simp [dropDate?, read, starts]

theorem isMoment_digits : isMoment digits = false := by
  rw [isMoment, dropTime?_digits all, dropDate?_digits all]
  rfl

theorem splitSign_digits : splitSign digits = (false, digits) := by
  unfold splitSign
  split
  · exact absurd List.mem_cons_self (not_mem_digits all '+' rfl)
  · exact absurd List.mem_cons_self (not_mem_digits all '-' rfl)
  · rfl

theorem ne_word {first : Char} (noDigit : first.isDigit = false) (others : List Char) :
    digits ≠ first :: others := by
  rintro rfl
  exact not_mem_digits all first noDigit List.mem_cons_self

theorem isFloat_digits : isFloat digits = false := by
  have noMark : digits.any (fun character => character == 'e' || character == 'E') = false := by
    refine List.any_eq_false.mpr fun digit member => ?_
    simp only [Bool.or_eq_true, beq_iff_eq]
    rintro (rfl | rfl) <;> exact absurd (all _ member) (by decide)
  have noPoint : (digits.takeWhile fun character =>
      !(character == 'e' || character == 'E')).contains '.' = false := by
    refine Bool.eq_false_iff.mpr fun contained => ?_
    have member := (List.takeWhile_sublist _).mem (List.contains_iff_mem.mp contained)
    exact not_mem_digits all '.' rfl member
  have notInf : digits ≠ "inf".toList := ne_word all rfl _
  have notNan : digits ≠ "nan".toList := ne_word all rfl _
  have noWord : ¬ (decide (digits = "inf".toList) || decide (digits = "nan".toList)) = true := by
    simp only [Bool.or_eq_true, decide_eq_true_eq]
    exact not_or.mpr ⟨notInf, notNan⟩
  simp only [isFloat, splitSign_digits all, noMark, noPoint, Bool.not_false, Bool.and_self, if_true]
  exact if_neg noWord

end Digits

theorem wholeDigits?_toDigits (number : Nat) :
    wholeDigits? (Nat.toDigits 10 number) = some (Nat.toDigits 10 number) := by
  obtain ⟨first, rest, spelled, -⟩ := Text.exists_toDigits_eq_cons number
  have all : ∀ digit ∈ Nat.toDigits 10 number, digit.isDigit = true := fun _ =>
    Text.isDigit_of_mem_toDigits
  have read := digits?_digits all (by simp [spelled])
  unfold wholeDigits?
  rw [read]
  split
  · rename_i zero next others led
    rcases Nat.eq_zero_or_pos number with rfl | positive
    · cases led
    · have starts := Text.head_toDigits_ne_zero positive
      rw [Option.some.inj led] at starts
      exact absurd rfl starts
  · rfl

theorem integer?_toDigits (number : Nat) :
    integer? (Nat.toDigits 10 number) = some (number : Int) := by
  have all : ∀ digit ∈ Nat.toDigits 10 number, digit.isDigit = true := fun _ =>
    Text.isDigit_of_mem_toDigits
  unfold integer?
  split
  · rename_i spelled
    exact absurd (by simp [spelled]) (not_mem_digits all 'x' rfl)
  · rename_i spelled
    exact absurd (by simp [spelled]) (not_mem_digits all 'o' rfl)
  · rename_i spelled
    exact absurd (by simp [spelled]) (not_mem_digits all 'b' rfl)
  · simp only [splitSign_digits all, wholeDigits?_toDigits, Option.map_some, valueIn_ten all,
      Text.digitsValue_toDigits]
    rfl

theorem isInteger64_of_lt {number : Nat} (small : number < Nat.pow 2 63) :
    isInteger64 number = true := by
  rw [Text.natPow_two_63] at small
  simp only [isInteger64, Text.intPow_two_63, Bool.and_eq_true, decide_eq_true_eq]
  omega

theorem scalar?_toDigits {number : Nat} (small : number < Nat.pow 2 63) :
    scalar? (Nat.toDigits 10 number) = some (.integer number) := by
  have all : ∀ digit ∈ Nat.toDigits 10 number, digit.isDigit = true := fun _ =>
    Text.isDigit_of_mem_toDigits
  have notTrue : Nat.toDigits 10 number ≠ "true".toList := ne_word all rfl _
  have notFalse : Nat.toDigits 10 number ≠ "false".toList := ne_word all rfl _
  rw [scalar?, if_neg notTrue, if_neg notFalse, isMoment_digits all, isFloat_digits all]
  simp only [integer?_toDigits, isInteger64_of_lt small, Bool.false_eq_true, if_false, if_true]

theorem readScalar?_toDigits {number : Nat} (small : number < Nat.pow 2 63) (rest : List Char) :
    readScalar? (Nat.toDigits 10 number ++ '\n' :: rest) =
      some (.integer number, '\n' :: rest) := by
  have scalars : ∀ digit ∈ Nat.toDigits 10 number, isScalarChar digit = true := by
    intro digit member
    have isDigit := Text.isDigit_of_mem_toDigits member
    simp [isScalarChar, Char.isAlphanum, isDigit]
  have stops : ∀ character ∈ ('\n' :: rest).head?, isScalarChar character = false := by
    rintro _ ⟨⟩
    decide
  rw [readScalar?]
  simp only [Text.takeWhile_run scalars stops, Text.dropWhile_run scalars stops,
    scalar?_toDigits small]
  rfl

/-- A value that has a written form on a line. -/
inductive Lined : Toml → Prop
  | string (value : String) : Lined (.string value)
  | integer {value : Nat} (small : value < Nat.pow 2 63) : Lined (.integer value)

theorem exists_mark_writeText (text : List Char) :
    ∃ mark others, writeText text = mark :: others ∧ (mark = '"' ∨ mark = '\'') := by
  unfold writeText
  simp only
  split
  · exact ⟨'"', _, rfl, .inl rfl⟩
  split
  · exact ⟨'\'', _, rfl, .inr rfl⟩
  split
  · exact ⟨'"', _, rfl, .inl rfl⟩
  split
  · exact ⟨'\'', _, rfl, .inr rfl⟩
  split
  · exact ⟨'"', _, rfl, .inl rfl⟩
  · exact ⟨'"', _, rfl, .inl rfl⟩

theorem apart_break (rest : List Char) : Apart ('\n' :: rest) := by
  rintro _ ⟨⟩
  decide

/-- Whether characters start with no space and are read as a value up to the end of their
line. -/
structure ReadsAs (text : List Char) (value : Toml) : Prop where
  solid (rest : List Char) : skipSpace (text ++ '\n' :: rest) = text ++ '\n' :: rest
  read (fuel room : Nat) (rest : List Char) :
    readValue? (fuel + 1) room (text ++ '\n' :: rest) = some (value, '\n' :: rest)

theorem readsAs_writeText (value : String) : ReadsAs (writeText value.toList) (.string value) := by
  obtain ⟨mark, others, written, isMark⟩ := exists_mark_writeText value.toList
  have string (rest : List Char) : some (Toml.string (String.ofList value.toList), rest) =
      some (Toml.string value, rest) := by rw [String.ofList_toList]
  constructor
  · intro rest
    rw [written]
    rcases isMark with rfl | rfl
    · rfl
    · rfl
  · intro fuel room rest
    have read : readText? (writeText value.toList ++ '\n' :: rest) =
        some (value.toList, '\n' :: rest) := readText?_writeText (apart_break rest)
    rw [written, List.cons_append] at read ⊢
    rcases isMark with rfl | rfl
    · rw [readValue?, read, Option.map_some]
      exact string _
    · rw [readValue?, read, Option.map_some]
      exact string _

theorem readsAs_toDigits {value : Nat} (small : value < Nat.pow 2 63) :
    ReadsAs (Nat.toDigits 10 value) (.integer value) := by
  obtain ⟨first, others, spelled, isDigit⟩ := Text.exists_toDigits_eq_cons value
  have ne_mark (mark : Char) (noDigit : mark.isDigit = false) : first ≠ mark := by
    rintro rfl
    rw [isDigit] at noDigit
    cases noDigit
  constructor
  · intro rest
    have solid : isSpace first = false := by
      simp [isSpace, ne_mark ' ' rfl, ne_mark '\t' rfl]
    rw [spelled, List.cons_append, skipSpace, List.dropWhile_cons, solid]
    rfl
  · intro fuel room rest
    have read := readScalar?_toDigits small rest
    rw [spelled, List.cons_append] at read ⊢
    rw [readValue?, read]
    · exact fun _ same => ne_mark _ rfl (List.cons.inj same).1
    · exact fun _ same => ne_mark _ rfl (List.cons.inj same).1
    · exact fun _ same => ne_mark _ rfl (List.cons.inj same).1
    · exact fun _ same => ne_mark _ rfl (List.cons.inj same).1

theorem Lined.exists_readsAs {value : Toml} (lined : value.Lined) :
    ∃ text, writeValue? value = some text ∧ ReadsAs text value := by
  cases lined with
  | string value => exact ⟨_, rfl, readsAs_writeText value⟩
  | @integer value small =>
      refine ⟨Nat.toDigits 10 value, ?_, readsAs_toDigits small⟩
      rw [writeValue?, if_pos (isInteger64_of_lt small)]
      exact congrArg some Text.toList_toString

/-- A name that is written without marks. -/
def Bare (name : String) : Prop :=
  name.toList ≠ [] ∧ ∀ character ∈ name.toList, isBareChar character = true

theorem ne_of_isBareChar {character : Char} (bare : isBareChar character = true) (other : Char)
    (notBare : isBareChar other = false) : character ≠ other := by
  rintro rfl
  rw [bare] at notBare
  cases notBare

section Names

variable {name : String} (bare : Bare name)

include bare

/-- The first character of a name is none that starts anything else. -/
theorem Bare.exists_first : ∃ first others, name.toList = first :: others ∧
    ∀ other, isBareChar other = false → first ≠ other := by
  obtain ⟨nonempty, all⟩ := bare
  obtain ⟨first, others, spelled⟩ := List.exists_cons_of_ne_nil nonempty
  exact ⟨first, others, spelled, ne_of_isBareChar (all first (spelled ▸ List.mem_cons_self))⟩

theorem skipSpace_bare (rest : List Char) :
    skipSpace (name.toList ++ rest) = name.toList ++ rest := by
  obtain ⟨first, others, spelled, different⟩ := bare.exists_first
  have solid : isSpace first = false := by
    simp [isSpace, different ' ' rfl, different '\t' rfl]
  rw [spelled, List.cons_append, skipSpace, List.dropWhile_cons, solid]
  rfl

theorem readPart?_bare (rest : List Char) :
    readPart? (name.toList ++ ' ' :: rest) = some (name, ' ' :: rest) := by
  have stops : ∀ character ∈ (' ' :: rest).head?, isBareChar character = false := by
    rintro _ ⟨⟩
    decide
  have taken := Text.takeWhile_run bare.2 stops
  have dropped := Text.dropWhile_run bare.2 stops
  obtain ⟨first, others, spelled, different⟩ := bare.exists_first
  rw [← String.ofList_toList (s := name)]
  simp only [String.toList_ofList, spelled] at taken dropped ⊢
  rw [List.cons_append] at taken dropped ⊢
  rw [readPart?]
  · rw [taken, dropped]
  · exact fun _ same => different _ rfl (List.cons.inj same).1
  · exact fun _ same => different _ rfl (List.cons.inj same).1

theorem readName?_bare (fuel : Nat) (rest : List Char) :
    readName? (fuel + 1) (name.toList ++ ' ' :: '=' :: rest) = some ([name], '=' :: rest) := by
  rw [readName?, skipSpace_bare bare, readPart?_bare bare]
  rfl

theorem readLines?_line {value : Toml} {text : List Char} {entries : Entries}
    (reads : ReadsAs text value) (fresh : entries.lookup name = none) (fuel : Nat)
    (rest : List Char) :
    readLines? (fuel + 1) [] entries
        (name.toList ++ ' ' :: '=' :: ' ' :: (text ++ '\n' :: rest)) =
      readLines? fuel [] (entries ++ [(name, value)]) rest := by
  have valueStart : skipSpace (' ' :: (text ++ '\n' :: rest)) = text ++ '\n' :: rest :=
    reads.solid rest
  generalize written : name.toList ++ ' ' :: '=' :: ' ' :: (text ++ '\n' :: rest) = line
  have start : skipSpace line = line := written ▸ skipSpace_bare bare _
  have notStart : ∀ other, isBareChar other = false → ∀ behind, line ≠ other :: behind := by
    rintro other notBare behind rfl
    obtain ⟨first, others, spelled, different⟩ := bare.exists_first
    rw [spelled, List.cons_append] at written
    exact different other notBare (List.cons.inj written).1
  have nonempty : line ≠ [] := by
    rw [← written]
    simp
  obtain ⟨length, measured⟩ :=
    Nat.exists_eq_succ_of_ne_zero (mt List.eq_nil_of_length_eq_zero nonempty)
  have named : readName? line.length line =
      some ([name], '=' :: ' ' :: (text ++ '\n' :: rest)) := by
    rw [measured, ← written]
    exact readName?_bare bare length _
  have valued : readValue? (3 * line.length) depthLimit (text ++ '\n' :: rest) =
      some (value, '\n' :: rest) := by
    rw [measured, Nat.mul_succ]
    exact reads.read (3 * length + 2) depthLimit rest
  have added : insertDotted? [] name value true entries = some (entries ++ [(name, value)]) := by
    rw [insertDotted?, fresh]
    rfl
  have parts : splitName [name] = ([], name) := rfl
  have shallow : ¬ depthLimit < [name].length := by simp [depthLimit]
  have ended : dropLineEnd? ('\n' :: rest) = some rest := rfl
  rw [readLines?, start]
  split
  · exact absurd rfl nonempty
  · exact absurd rfl (notStart '\n' rfl _)
  · exact absurd rfl (notStart '\r' rfl _)
  · exact absurd rfl (notStart '#' rfl _)
  · exact absurd rfl (notStart '[' rfl _)
  · exact absurd rfl (notStart '[' rfl _)
  · simp only [named, valueStart, valued, parts, shallow, modifyAt?, added, ended, if_false]

end Names

theorem exists_line {name : String} {value : Toml} (bare : Bare name) (lined : value.Lined) :
    ∃ first others, writeEntry? name value = some (first :: others) ∧ first ≠ '\ufeff' ∧
      ∀ {entries : Entries}, entries.lookup name = none → ∀ fuel rest,
        readLines? (fuel + 1) [] entries (first :: others ++ rest) =
          readLines? fuel [] (entries ++ [(name, value)]) rest := by
  obtain ⟨text, written, reads⟩ := lined.exists_readsAs
  obtain ⟨first, others, spelled, different⟩ := bare.exists_first
  refine ⟨first, others ++ " = ".toList ++ text ++ ['\n'], ?_, different '\ufeff' rfl, ?_⟩
  · rw [ writeEntry?, written, spelled]
    rfl
  · intro entries fresh fuel rest
    have line := readLines?_line bare reads fresh fuel rest
    rw [spelled] at line
    rw [← line]
    simp

/-- Lines are read as their entries, which follow those of the lines before. -/
theorem exists_lines {entries : Entries} (bare : ∀ entry ∈ entries, Bare entry.1)
    (lined : ∀ entry ∈ entries, entry.2.Lined) (distinct : (entries.map (·.1)).Nodup) :
    ∃ lines, writeEntries? entries = some lines ∧ lines.head? ≠ some '\ufeff' ∧
      ∀ {earlier : Entries}, (∀ entry ∈ entries, earlier.lookup entry.1 = none) → ∀ fuel,
        lines.length < fuel → readLines? fuel [] earlier lines = some (earlier ++ entries) := by
  induction entries with
  | nil =>
      refine ⟨[], rfl, nofun, fun {earlier} _ fuel enough => ?_⟩
      obtain ⟨fuel, rfl⟩ := Nat.exists_eq_succ_of_ne_zero (Nat.ne_of_gt enough)
      rw [readLines?, List.append_nil]
      rfl
  | cons entry rest ih =>
      obtain ⟨firstBare, othersBare⟩ := List.forall_mem_cons.mp bare
      obtain ⟨firstLined, othersLined⟩ := List.forall_mem_cons.mp lined
      obtain ⟨freshName, othersDistinct⟩ := List.nodup_cons.mp distinct
      obtain ⟨first, others, written, noMark, readLine⟩ := exists_line firstBare firstLined
      obtain ⟨lines, writtenOthers, -, readOthers⟩ := ih othersBare othersLined othersDistinct
      refine ⟨first :: others ++ lines, ?_, ?_, fun {earlier} fresh fuel enough => ?_⟩
      · rw [writeEntries?, written, writtenOthers]
      · rintro ⟨⟩
        exact noMark rfl
      · obtain ⟨firstFresh, othersFresh⟩ := List.forall_mem_cons.mp fresh
        obtain ⟨fuel, rfl⟩ :=
          Nat.exists_eq_succ_of_ne_zero (Nat.ne_of_gt (Nat.zero_lt_of_lt enough))
        rw [List.length_append, List.length_cons] at enough
        rw [readLine firstFresh, readOthers _ fuel (by omega), List.append_assoc]
        · rfl
        · intro other listed
          have different : other.1 ≠ entry.1 := fun same =>
            freshName (List.mem_map.mpr ⟨other, listed, same⟩)
          rw [List.lookup_append, othersFresh other listed, Option.none_or]
          exact List.lookup_eq_none_iff.mpr (by simpa using different)

/-- A document of plain entries is read as these entries. -/
theorem ofText?_toText? {entries : Entries} (bare : ∀ entry ∈ entries, Bare entry.1)
    (lined : ∀ entry ∈ entries, entry.2.Lined) (distinct : (entries.map (·.1)).Nodup) :
    ∃ text, toText? entries = some text ∧ ofText? text = some entries := by
  obtain ⟨lines, written, noMark, read⟩ := exists_lines bare lined distinct
  refine ⟨String.ofList lines, by rw [toText?, written]; rfl, ?_⟩
  have whole : readLines? (lines.length + 1) [] [] lines = some entries :=
    read (fun _ _ => rfl) _ (Nat.lt_succ_self _)
  rw [ofText?, String.toList_ofList]
  split
  · exact absurd rfl noMark
  · exact whole

end IssueQuery.Toml
