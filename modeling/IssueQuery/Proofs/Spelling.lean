import IssueQuery.Proofs.Literals

namespace IssueQuery.Json

/-! JSON texts and the values they spell.

The parts of a value are written in one way each, with any blanks between them.  Both
layouts that are written spell their values, and what spells a value is read as it.
-/

def Blanks (characters : List Char) : Prop :=
  ∀ character ∈ characters, Source.isSpace character = true

theorem blanks_nil : Blanks [] := fun _ member => nomatch member

mutual

/-- Characters that are the text of a value, with any blanks between its parts. -/
inductive Spells : Json → List Char → Prop
  | null : Spells .null "null".toList
  | bool (value : Bool) : Spells (.bool value) (writeBool value)
  | number {value : Number} (fits : value.Fits) : Spells (.number value) value.write
  | string (value : String) : Spells (.string value) (writeString value)
  | emptyArray {gap : List Char} (blank : Blanks gap) : Spells (.array []) ('[' :: (gap ++ [']']))
  | array {items : List Json} {text : List Char} (spelled : SpellsItems items text) :
      Spells (.array items) ('[' :: text)
  | emptyObject {gap : List Char} (blank : Blanks gap) :
      Spells (.object []) ('\x7b' :: (gap ++ ['\x7d']))
  | object {members : List (String × Json)} {text : List Char}
      (spelled : SpellsMembers members text) : Spells (.object members) ('\x7b' :: text)

/-- What stands behind the opening bracket of an array that has items. -/
inductive SpellsItems : List Json → List Char → Prop
  | last {item : Json} {front text behind : List Char} (frontBlank : Blanks front)
      (spelled : Spells item text) (behindBlank : Blanks behind) :
      SpellsItems [item] (front ++ (text ++ (behind ++ [']'])))
  | more {item : Json} {rest : List Json} {front text behind others : List Char}
      (frontBlank : Blanks front) (spelled : Spells item text) (behindBlank : Blanks behind)
      (following : SpellsItems rest others) :
      SpellsItems (item :: rest) (front ++ (text ++ (behind ++ ',' :: others)))

/-- What stands behind the opening brace of an object that has members. -/
inductive SpellsMembers : List (String × Json) → List Char → Prop
  | last {name : String} {value : Json} {front gap between text behind : List Char}
      (frontBlank : Blanks front) (gapBlank : Blanks gap) (betweenBlank : Blanks between)
      (spelled : Spells value text) (behindBlank : Blanks behind) :
      SpellsMembers [(name, value)]
        (front ++ (writeString name ++ (gap ++ ':' :: (between ++ (text ++ (behind ++ ['\x7d']))))))
  | more {name : String} {value : Json} {rest : List (String × Json)}
      {front gap between text behind others : List Char}
      (frontBlank : Blanks front) (gapBlank : Blanks gap) (betweenBlank : Blanks between)
      (spelled : Spells value text) (behindBlank : Blanks behind)
      (following : SpellsMembers rest others) :
      SpellsMembers ((name, value) :: rest)
        (front ++ (writeString name ++
          (gap ++ ':' :: (between ++ (text ++ (behind ++ ',' :: others))))))

end

namespace Source

/-- What may close an item or a member. -/
def closers : List Char := [',', ']', '\x7d']

end Source

/-- Whether a number may start with a character. -/
def BeginsNumber (character : Char) : Prop := character.isDigit = true ∨ character = '-'

theorem BeginsNumber.not_mem {character : Char} (begins : BeginsNumber character)
    {others : List Char}
    (different : (others.all fun other => !other.isDigit && other != '-') = true) :
    character ∉ others := by
  intro member
  have apart := List.all_eq_true.mp different character member
  simp only [Bool.and_eq_true, Bool.not_eq_true', bne_iff_ne] at apart
  obtain ⟨noDigit, notMinus⟩ := apart
  rcases begins with isDigit | minus
  · rw [noDigit] at isDigit
    cases isDigit
  · exact notMinus minus

theorem BeginsNumber.solid {character : Char} (begins : BeginsNumber character) :
    Source.isSpace character = false := by
  have notBlank : character ∉ [' ', '\n', '\t', '\r'] := begins.not_mem (by decide)
  simpa [Source.isSpace, and_assoc] using notBlank

theorem Number.Fits.exists_first {number : Number} (fits : number.Fits) :
    ∃ first rest, number.write = first :: rest ∧ BeginsNumber first := by
  cases number with
  | int value =>
      cases value with
      | ofNat magnitude =>
          obtain ⟨first, rest, spelled, isDigit⟩ := Text.exists_toDigits_eq_cons magnitude
          exact ⟨first, rest, (write_ofNat magnitude).trans spelled, .inl isDigit⟩
      | negSucc magnitude => exact ⟨'-', _, write_negSucc magnitude, .inr rfl⟩
  | float value => exact fits.elim

namespace Source

theorem skipSpace_blanks {blanks : List Char} (blank : Blanks blanks) {first : Char}
    (solid : isSpace first = false) (rest : List Char) :
    skipSpace (blanks ++ first :: rest) = first :: rest := by
  refine Text.dropWhile_run blank ?_
  rintro character ⟨⟩
  exact solid

theorem endsNumber_of_blanks {blanks : List Char} (blank : Blanks blanks) : EndsNumber blanks := by
  intro character first
  have space := blank character (List.mem_of_mem_head? first)
  simp only [isSpace, Bool.or_eq_true, beq_iff_eq] at space
  rcases space with ((rfl | rfl) | rfl) | rfl <;> decide

theorem endsNumber_blanks {blanks : List Char} (blank : Blanks blanks) (closer : Char)
    (closes : closer ∈ closers) (rest : List Char) : EndsNumber (blanks ++ closer :: rest) := by
  cases blanks with
  | nil =>
      rintro character ⟨⟩
      simp only [closers, List.mem_cons, List.not_mem_nil, or_false] at closes
      rcases closes with rfl | rfl | rfl <;> decide
  | cons first others =>
      exact fun character member => endsNumber_of_blanks blank character member

/-- A value starts with a character that is neither a blank nor closes anything. -/
theorem exists_first_of_spells {value : Json} {text : List Char} (spelled : Spells value text) :
    ∃ first rest, text = first :: rest ∧ isSpace first = false ∧ first ∉ closers := by
  cases spelled with
  | null => exact ⟨'n', _, rfl, rfl, by decide⟩
  | bool value =>
      cases value with
      | false => exact ⟨'f', _, rfl, rfl, by decide⟩
      | true => exact ⟨'t', _, rfl, rfl, by decide⟩
  | @number number fits =>
      obtain ⟨first, rest, written, begins⟩ := fits.exists_first
      exact ⟨first, rest, written, begins.solid, begins.not_mem (by decide)⟩
  | string value => exact ⟨'"', _, rfl, rfl, by decide⟩
  | emptyArray blank => exact ⟨'[', _, rfl, rfl, by decide⟩
  | array spelled => exact ⟨'[', _, rfl, rfl, by decide⟩
  | emptyObject blank => exact ⟨'\x7b', _, rfl, rfl, by decide⟩
  | object spelled => exact ⟨'\x7b', _, rfl, rfl, by decide⟩

def ReadsValues (fuel : Nat) : Prop :=
  ∀ {value : Json} {text : List Char}, Spells value text →
    ∀ (room : Nat) {blanks rest : List Char}, Blanks blanks → EndsNumber rest →
      value.depth ≤ room → 2 * text.length ≤ fuel →
        readValue? fuel room (blanks ++ (text ++ rest)) = some (value.toSource, rest)

def ReadsItems (fuel : Nat) : Prop :=
  ∀ {items : List Json} {text : List Char}, SpellsItems items text →
    ∀ (room : Nat) (rest : List Char), Json.itemsDepth items ≤ room → 2 * text.length < fuel →
      readItems? fuel room (text ++ rest) = some (itemsToSource items, rest)

def ReadsMembers (fuel : Nat) : Prop :=
  ∀ {members : List (String × Json)} {text : List Char}, SpellsMembers members text →
    ∀ (room : Nat) (rest : List Char), Json.membersDepth members ≤ room → 2 * text.length < fuel →
      readMembers? fuel room (text ++ rest) = some (membersToSource members, rest)

theorem readsItems_succ {fuel : Nat} (values : ReadsValues fuel) (items : ReadsItems fuel) :
    ReadsItems (fuel + 1) := by
  intro list text spelled room rest shallow enough
  cases spelled with
  | @last item front text behind frontBlank spelled behindBlank =>
      have read := values spelled room frontBlank
        (endsNumber_blanks behindBlank ']' (by decide) rest)
        (le_trans (le_max_left _ _) shallow) (by simp at enough; omega)
      simp only [List.append_assoc, List.cons_append, List.nil_append]
      rw [readItems?, read]
      simp only
      rw [skipSpace_blanks behindBlank rfl]
      rfl
  | @more item others front text behind more frontBlank spelled behindBlank following =>
      have read := values spelled room frontBlank
        (endsNumber_blanks behindBlank ',' (by decide) (more ++ rest))
        (le_trans (le_max_left _ _) shallow) (by simp at enough; omega)
      have readMore := items following room rest
        (le_trans (le_max_right _ _) shallow) (by simp at enough; omega)
      simp only [List.append_assoc, List.cons_append]
      rw [readItems?, read]
      simp only
      rw [skipSpace_blanks behindBlank rfl]
      simp only [readMore]
      rfl

theorem readString?_writeString (value : String) (rest : List Char) :
    ∃ body, writeString value ++ rest = '"' :: body ∧
      readString? body = some (some value, rest) :=
  ⟨value.toList.flatMap escapeChar ++ '"' :: rest,
    by simp [writeString], readString?_written value rest⟩

theorem readsMembers_succ {fuel : Nat} (values : ReadsValues fuel) (members : ReadsMembers fuel) :
    ReadsMembers (fuel + 1) := by
  intro list text spelled room rest shallow enough
  cases spelled with
  | @last name value front gap between text behind frontBlank gapBlank betweenBlank spelled
      behindBlank =>
      have read := values spelled room betweenBlank
        (endsNumber_blanks behindBlank '\x7d' (by decide) rest)
        (le_trans (le_max_left _ _) shallow) (by simp at enough; omega)
      simp only [List.append_assoc, List.cons_append, List.nil_append]
      obtain ⟨body, opened, named⟩ := readString?_writeString name
        (gap ++ ':' :: (between ++ (text ++ (behind ++ '\x7d' :: rest))))
      rw [opened, readMembers?, skipSpace_blanks frontBlank rfl]
      simp only [named]
      rw [skipSpace_blanks gapBlank rfl]
      simp only [read]
      rw [skipSpace_blanks behindBlank rfl]
      rfl
  | @more name value others front gap between text behind more frontBlank gapBlank betweenBlank
      spelled behindBlank following =>
      have read := values spelled room betweenBlank
        (endsNumber_blanks behindBlank ',' (by decide) (more ++ rest))
        (le_trans (le_max_left _ _) shallow) (by simp at enough; omega)
      have readMore := members following room rest
        (le_trans (le_max_right _ _) shallow) (by simp at enough; omega)
      simp only [List.append_assoc, List.cons_append]
      obtain ⟨body, opened, named⟩ := readString?_writeString name
        (gap ++ ':' :: (between ++ (text ++ (behind ++ ',' :: (more ++ rest)))))
      rw [opened, readMembers?, skipSpace_blanks frontBlank rfl]
      simp only [named]
      rw [skipSpace_blanks gapBlank rfl]
      simp only [read]
      rw [skipSpace_blanks behindBlank rfl]
      simp only [readMore]
      rfl

theorem dropWord?_append (word rest : List Char) : dropWord? word (word ++ rest) = some rest := by
  induction word with
  | nil => rfl
  | cons character word ih => simpa [dropWord?] using ih

theorem skipSpace_items {items : List Json} {text : List Char} (spelled : SpellsItems items text)
    (rest : List Char) :
    ∃ first behind, skipSpace (text ++ rest) = first :: behind ∧ first ∉ closers := by
  cases spelled with
  | @last item front text behind frontBlank spelled behindBlank =>
      obtain ⟨first, others, rfl, solid, opens⟩ := exists_first_of_spells spelled
      rw [List.append_assoc, List.cons_append, List.cons_append, skipSpace_blanks frontBlank solid]
      exact ⟨first, _, rfl, opens⟩
  | @more item others front text behind more frontBlank spelled behindBlank following =>
      obtain ⟨first, others, rfl, solid, opens⟩ := exists_first_of_spells spelled
      rw [List.append_assoc, List.cons_append, List.cons_append, skipSpace_blanks frontBlank solid]
      exact ⟨first, _, rfl, opens⟩

theorem skipSpace_members {members : List (String × Json)} {text : List Char}
    (spelled : SpellsMembers members text) (rest : List Char) :
    ∃ behind, skipSpace (text ++ rest) = '"' :: behind := by
  cases spelled with
  | last frontBlank =>
      rw [List.append_assoc, List.append_assoc, writeString]
      exact ⟨_, skipSpace_blanks frontBlank rfl _⟩
  | more frontBlank =>
      rw [List.append_assoc, List.append_assoc, writeString]
      exact ⟨_, skipSpace_blanks frontBlank rfl _⟩

theorem readValue?_of_beginsNumber {blanks : List Char} (blank : Blanks blanks) {first : Char}
    (begins : BeginsNumber first) (fuel room : Nat) (rest : List Char) :
    readValue? (fuel + 1) room (blanks ++ first :: rest) =
      (readNumber? (first :: rest)).map fun (literal, remaining) =>
        ((literal.value?.map Source.number).getD .unreadable, remaining) := by
  have other : first ∉ ['"', '[', '\x7b', 'n', 't', 'f'] := begins.not_mem (by decide)
  rw [readValue?, skipSpace_blanks blank begins.solid]
  split
  case h_7 => rfl
  all_goals
    rename_i same
    cases same
    exact absurd other (by decide)

section

variable {blanks : List Char} (blank : Blanks blanks) (fuel room : Nat)
include blank

theorem readValue?_null (rest : List Char) :
    readValue? (fuel + 1) room (blanks ++ ("null".toList ++ rest)) = some (.null, rest) := by
  change readValue? _ _ (blanks ++ 'n' :: ("ull".toList ++ rest)) = _
  rw [readValue?, skipSpace_blanks blank rfl]
  simp only [dropWord?_append]
  rfl

theorem readValue?_writeBool (value : Bool) (rest : List Char) :
    readValue? (fuel + 1) room (blanks ++ (writeBool value ++ rest)) =
      some (.bool value, rest) := by
  cases value with
  | false =>
      change readValue? _ _ (blanks ++ 'f' :: ("alse".toList ++ rest)) = _
      rw [readValue?, skipSpace_blanks blank rfl]
      simp only [dropWord?_append]
      rfl
  | true =>
      change readValue? _ _ (blanks ++ 't' :: ("rue".toList ++ rest)) = _
      rw [readValue?, skipSpace_blanks blank rfl]
      simp only [dropWord?_append]
      rfl

theorem readValue?_writeString (value : String) (rest : List Char) :
    readValue? (fuel + 1) room (blanks ++ (writeString value ++ rest)) =
      some (.string value, rest) := by
  obtain ⟨body, opened, read⟩ := readString?_writeString value rest
  rw [opened, readValue?, skipSpace_blanks blank rfl]
  simp only [read]
  rfl

theorem readValue?_writeNumber {number : Number} (fits : number.Fits) {rest : List Char}
    (ends : EndsNumber rest) :
    readValue? (fuel + 1) room (blanks ++ (number.write ++ rest)) =
      some (.number number, rest) := by
  obtain ⟨first, behind, written, begins⟩ := fits.exists_first
  cases number with
  | int number =>
      obtain ⟨literal, read, stands⟩ := readNumber?_written fits ends
      rw [written, List.cons_append] at read ⊢
      rw [readValue?_of_beginsNumber blank begins, read, Option.map_some]
      simp only [stands]
      rfl
  | float number => exact fits.elim

variable {room} (entered : room ≠ 0)
include entered

theorem readValue?_emptyArray {gap : List Char} (gapBlank : Blanks gap) (rest : List Char) :
    readValue? (fuel + 1) room (blanks ++ '[' :: (gap ++ ']' :: rest)) =
      some (.array [], rest) := by
  rw [readValue?, skipSpace_blanks blank rfl]
  simp only
  rw [skipSpace_blanks gapBlank rfl]
  simp only [if_neg entered]

theorem readValue?_items {text rest : List Char} {first : Char} {behind : List Char}
    (opened : skipSpace text = first :: behind) (opens : first ∉ closers) {items : List Source}
    (read : readItems? fuel (room - 1) text = some (items, rest)) :
    readValue? (fuel + 1) room (blanks ++ '[' :: text) = some (.array items, rest) := by
  rw [readValue?, skipSpace_blanks blank rfl]
  simp only [opened]
  split
  · rename_i same
    cases same
    exact absurd opens (by decide)
  · simp only [read, if_neg entered]
    rfl

theorem readValue?_emptyObject {gap : List Char} (gapBlank : Blanks gap) (rest : List Char) :
    readValue? (fuel + 1) room (blanks ++ '\x7b' :: (gap ++ '\x7d' :: rest)) =
      some (.object [], rest) := by
  rw [readValue?, skipSpace_blanks blank rfl]
  simp only
  rw [skipSpace_blanks gapBlank rfl]
  simp only [if_neg entered]

theorem readValue?_members {text behind rest : List Char} (opened : skipSpace text = '"' :: behind)
    {members : List (Option String × Source)}
    (read : readMembers? fuel (room - 1) text = some (members, rest)) :
    readValue? (fuel + 1) room (blanks ++ '\x7b' :: text) = some (.object members, rest) := by
  rw [readValue?, skipSpace_blanks blank rfl]
  simp only [opened, read, if_neg entered]
  rfl

end

theorem readsValues_succ {fuel : Nat} (items : ReadsItems fuel) (members : ReadsMembers fuel) :
    ReadsValues (fuel + 1) := by
  intro value text spelled room blanks rest blank ends shallow enough
  cases spelled with
  | null => exact readValue?_null blank fuel room rest
  | bool value => exact readValue?_writeBool blank fuel room value rest
  | number fits => exact readValue?_writeNumber blank fuel room fits ends
  | string value => exact readValue?_writeString blank fuel room value rest
  | emptyArray gapBlank =>
      have entered : room ≠ 0 := Nat.ne_of_gt (lt_of_lt_of_le (Nat.succ_pos _) shallow)
      simp only [List.cons_append, List.append_assoc, List.nil_append]
      exact readValue?_emptyArray blank fuel entered gapBlank rest
  | array spelled =>
      simp only [Json.depth] at shallow
      have read := items spelled (room - 1) rest (by omega) (by simp at enough; omega)
      obtain ⟨first, behind, opened, opens⟩ := skipSpace_items spelled rest
      exact readValue?_items blank fuel (by omega) opened opens read
  | emptyObject gapBlank =>
      have entered : room ≠ 0 := Nat.ne_of_gt (lt_of_lt_of_le (Nat.succ_pos _) shallow)
      simp only [List.cons_append, List.append_assoc, List.nil_append]
      exact readValue?_emptyObject blank fuel entered gapBlank rest
  | object spelled =>
      simp only [Json.depth] at shallow
      have read := members spelled (room - 1) rest (by omega) (by simp at enough; omega)
      obtain ⟨behind, opened⟩ := skipSpace_members spelled rest
      exact readValue?_members blank fuel (by omega) opened read

theorem reads (fuel : Nat) : ReadsValues fuel ∧ ReadsItems fuel ∧ ReadsMembers fuel := by
  -- A character is met at most twice: where an item starts and in the item itself.
  induction fuel with
  | zero =>
      refine ⟨?_, ?_, ?_⟩
      · intro value text spelled room blanks rest _ _ _ enough
        obtain ⟨first, behind, rfl, -⟩ := exists_first_of_spells spelled
        simp at enough
      · intro items text _ room rest _ enough
        omega
      · intro members text _ room rest _ enough
        omega
  | succ fuel ih =>
      obtain ⟨values, items, members⟩ := ih
      exact ⟨readsValues_succ items members, readsItems_succ values items,
        readsMembers_succ values members⟩

/-- A text that spells a value is read as it, whatever blanks are around it. -/
theorem ofText?_of_spells {value : Json} {text front behind : List Char}
    (spelled : Spells value text) (shallow : value.depth ≤ depthLimit) (frontBlank : Blanks front)
    (behindBlank : Blanks behind) :
    ofText? (String.ofList (front ++ (text ++ behind))) = some value.toSource := by
  have read := (reads (2 * (front ++ (text ++ behind)).length + 2)).1 spelled depthLimit frontBlank
    (endsNumber_of_blanks behindBlank) shallow (by simp; omega)
  have nothing : skipSpace behind = [] := by
    have all : (behind ++ []).dropWhile isSpace = [] := Text.dropWhile_run behindBlank (by simp)
    rwa [List.append_nil] at all
  rw [ofText?, String.toList_ofList]
  simp only [read, nothing, if_true]

end Source

mutual

theorem toJson?_toSource : (value : Json) → value.toSource.toJson? = some value.sorted
  | .null => rfl
  | .bool _ => rfl
  | .number _ => rfl
  | .string _ => rfl
  | .array items => by
      rw [toSource, Source.toJson?, itemsToJson?_itemsToSource items]
      rfl
  | .object members => by
      rw [toSource, Source.toJson?, membersToJson?_membersToSource members]
      rfl

theorem itemsToJson?_itemsToSource : (items : List Json) →
    Source.itemsToJson? (itemsToSource items) = some (sortedItems items)
  | [] => rfl
  | item :: rest => by
      rw [itemsToSource, Source.itemsToJson?, toJson?_toSource item,
        itemsToJson?_itemsToSource rest]
      rfl

theorem membersToJson?_membersToSource : (members : List (String × Json)) →
    Source.membersToJson? (membersToSource members) = some (sortedMembers members)
  | [] => rfl
  | (name, value) :: rest => by
      rw [membersToSource, Source.membersToJson?, toJson?_toSource value,
        membersToJson?_membersToSource rest]
      rfl

end

/-- As a value of free form, what is read is in its sorted form. -/
theorem ofText?_of_spells {value : Json} {text front behind : List Char}
    (spelled : Spells value text) (shallow : value.depth ≤ Source.depthLimit)
    (frontBlank : Blanks front) (behindBlank : Blanks behind) :
    ofText? (String.ofList (front ++ (text ++ behind))) = some value.sorted := by
  rw [ofText?, Source.ofText?_of_spells spelled shallow frontBlank behindBlank, Option.bind_some,
    toJson?_toSource]

/-- Whether each number in a value has a property. -/
inductive EachNumber (property : Number → Prop) : Json → Prop
  | null : EachNumber property .null
  | bool (value : Bool) : EachNumber property (.bool value)
  | number {value : Number} (holds : property value) : EachNumber property (.number value)
  | string (value : String) : EachNumber property (.string value)
  | array {items : List Json} (each : ∀ item ∈ items, EachNumber property item) :
      EachNumber property (.array items)
  | object {members : List (String × Json)}
      (each : ∀ member ∈ members, EachNumber property member.2) :
      EachNumber property (.object members)

section Layouts

variable {front behind : List Char}

/-- Items are spelled when each is written behind a comma and the same blanks. -/
theorem spellsItems_of_written (write : Json → List Char) (further : List Json → List Char)
    (frontBlank : Blanks front) (behindBlank : Blanks behind)
    (last : further [] = behind ++ [']'])
    (more : ∀ item rest, further (item :: rest) = ',' :: (front ++ (write item ++ further rest)))
    {items : List Json} (spelled : ∀ item ∈ items, Spells item (write item)) {first : Json}
    {text : List Char} (firstSpelled : Spells first text) :
    SpellsItems (first :: items) (front ++ (text ++ further items)) := by
  induction items generalizing first text with
  | nil =>
      rw [last]
      exact .last frontBlank firstSpelled behindBlank
  | cons item rest ih =>
      have following := ih (fun other member => spelled other (List.mem_cons_of_mem _ member))
        (spelled item List.mem_cons_self)
      have all := SpellsItems.more frontBlank firstSpelled blanks_nil following
      rw [more]
      exact all

theorem spellsMembers_of_written (write : Json → List Char)
    (further : List (String × Json) → List Char) {between : List Char}
    (frontBlank : Blanks front) (betweenBlank : Blanks between) (behindBlank : Blanks behind)
    (last : further [] = behind ++ ['\x7d'])
    (more : ∀ name value rest, further ((name, value) :: rest) =
      ',' :: (front ++ (writeString name ++ ':' :: (between ++ (write value ++ further rest)))))
    {members : List (String × Json)}
    (spelled : ∀ member ∈ members, Spells member.2 (write member.2)) (name : String) {value : Json}
    {text : List Char} (firstSpelled : Spells value text) :
    SpellsMembers ((name, value) :: members)
      (front ++ (writeString name ++ ':' :: (between ++ (text ++ further members)))) := by
  induction members generalizing name value text with
  | nil =>
      have all : SpellsMembers [(name, value)] _ :=
        .last frontBlank blanks_nil betweenBlank firstSpelled behindBlank
      rw [last]
      exact all
  | cons member rest ih =>
      have following := ih (fun other member => spelled other (List.mem_cons_of_mem _ member))
        member.1 (spelled member List.mem_cons_self)
      have all : SpellsMembers ((name, value) :: member :: rest) _ :=
        .more frontBlank blanks_nil betweenBlank firstSpelled blanks_nil following
      rw [more]
      exact all

end Layouts

theorem EachNumber.spells_writeCompact {value : Json} (fit : value.EachNumber Number.Fits) :
    Spells value value.writeCompact := by
  induction fit with
  | null => exact .null
  | bool value => exact .bool value
  | number fits => exact .number fits
  | string value => exact .string value
  | @array items fit ih =>
      cases items with
      | nil => exact .emptyArray blanks_nil
      | cons item rest =>
          have spelled := spellsItems_of_written writeCompact writeCompactItems blanks_nil
            blanks_nil rfl (fun _ _ => by simp [writeCompactItems])
            (fun other member => ih other (List.mem_cons_of_mem _ member))
            (ih item List.mem_cons_self)
          simpa [writeCompact] using Spells.array spelled
  | @object members fit ih =>
      cases members with
      | nil => exact .emptyObject blanks_nil
      | cons member rest =>
          have spelled := spellsMembers_of_written writeCompact writeCompactMembers blanks_nil
            blanks_nil blanks_nil rfl (fun _ _ _ => by simp [writeCompactMembers])
            (fun other member => ih other (List.mem_cons_of_mem _ member)) member.1
            (ih member List.mem_cons_self)
          simpa [writeCompact] using Spells.object spelled

theorem blanks_newLine (level : Nat) : Blanks (newLine level) := by
  intro character member
  rcases List.mem_cons.mp member with rfl | later
  · rfl
  · rw [List.eq_of_mem_replicate later]
    rfl

theorem blanks_space : Blanks [' '] := by
  intro character member
  rw [List.mem_singleton.mp member]
  rfl

theorem EachNumber.spells_writePretty {value : Json} (fit : value.EachNumber Number.Fits)
    (level : Nat) : Spells value (writePretty level value) := by
  induction fit generalizing level with
  | null => exact .null
  | bool value => exact .bool value
  | number fits => exact .number fits
  | string value => exact .string value
  | @array items fit ih =>
      cases items with
      | nil => exact .emptyArray blanks_nil
      | cons item rest =>
          have spelled := spellsItems_of_written (writePretty (level + 1)) (writePrettyItems level)
            (blanks_newLine (level + 1)) (blanks_newLine level) rfl
            (fun _ _ => by simp [writePrettyItems])
            (fun other member => ih other (List.mem_cons_of_mem _ member) (level + 1))
            (ih item List.mem_cons_self (level + 1))
          simpa [writePretty] using Spells.array spelled
  | @object members fit ih =>
      cases members with
      | nil => exact .emptyObject blanks_nil
      | cons member rest =>
          have spelled := spellsMembers_of_written (writePretty (level + 1))
            (writePrettyMembers level) (blanks_newLine (level + 1)) blanks_space
            (blanks_newLine level) rfl (fun _ _ _ => by simp [writePrettyMembers])
            (fun other member => ih other (List.mem_cons_of_mem _ member) (level + 1)) member.1
            (ih member List.mem_cons_self (level + 1))
          simpa [writePretty] using Spells.object spelled

end IssueQuery.Json
