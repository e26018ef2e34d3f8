import IssueQuery.Proofs.Numerals
import IssueQuery.Proofs.Printing
import IssueQuery.Service.Filter
import Mathlib.Data.List.Infix

namespace IssueQuery

/-! Quoted values in the text of a filter.

A service reads the clauses of a filter from its text.  It finds where a quoted value ends by
its marks alone, and the values it comes to are the type and the status of the filter, whatever
stands in them.
-/

structure Clause where
  name : String
  value : String
deriving DecidableEq, Repr

namespace Clause

def sign : List Char := " = \"".toList

def conjunction : List Char := " AND ".toList

/-- Reads a quoted value behind its first mark, and what is behind the value.  A backslash takes
the next character as it stands; the first mark that is not taken so ends the value. -/
def readValue? : List Char → Option (List Char × List Char)
  | [] => none
  | '"' :: rest => some ([], rest)
  | ['\\'] => none
  | '\\' :: character :: rest =>
      (readValue? rest).map fun (value, behind) => (character :: value, behind)
  | character :: rest =>
      (readValue? rest).map fun (value, behind) => (character :: value, behind)

def read? (text : List Char) : Option (Clause × List Char) := do
  let quoted ← (text.dropWhile Char.isAlpha).dropPrefix? sign
  let (value, rest) ← readValue? quoted
  return (⟨String.ofList (text.takeWhile Char.isAlpha), String.ofList value⟩, rest)

theorem length_lt_of_readValue? {text value rest : List Char}
    (read : readValue? text = some (value, rest)) : rest.length < text.length := by
  fun_induction readValue? text generalizing value with
  | case1 => cases read
  | case2 => cases read; simp
  | case3 => cases read
  | case4 character rest ih =>
      obtain ⟨⟨inner, behind⟩, found, same⟩ := Option.map_eq_some_iff.mp read
      cases same
      have shorter := ih found
      simp only [List.length_cons]
      omega
  | case5 character rest _ _ _ ih =>
      obtain ⟨⟨inner, behind⟩, found, same⟩ := Option.map_eq_some_iff.mp read
      cases same
      have shorter := ih found
      simp only [List.length_cons]
      omega

theorem length_le_of_dropPrefix? {text front rest : List Char}
    (dropped : text.dropPrefix? front = some rest) : rest.length ≤ text.length := by
  obtain ⟨same, rfl, -⟩ := List.dropPrefix?_eq_some_iff.mp dropped
  simp

theorem length_lt_of_read? {text rest : List Char} {clause : Clause}
    (read : read? text = some (clause, rest)) : rest.length < text.length := by
  obtain ⟨quoted, dropped, following⟩ := Option.bind_eq_some_iff.mp read
  obtain ⟨⟨value, behind⟩, found, same⟩ := Option.bind_eq_some_iff.mp following
  cases same
  have shorter := length_lt_of_readValue? found
  have short := length_le_of_dropPrefix? dropped
  have name := (List.dropWhile_sublist Char.isAlpha (l := text)).length_le
  omega

/-- Reads clauses up to the end.  All but the first stand behind a conjunction, and the first one
too if something stands in front of it. -/
def readJoined? (isFirst : Bool) (text : List Char) : Option (List Clause) :=
  if text.isEmpty then some []
  else
    match _found : (if isFirst then some text else text.dropPrefix? conjunction).bind read? with
    | none => none
    | some (clause, rest) => (readJoined? false rest).map (clause :: ·)
termination_by text.length
decreasing_by
  obtain ⟨opened, dropped, read⟩ := Option.bind_eq_some_iff.mp _found
  have shorter := length_lt_of_read? read
  split at dropped
  · cases dropped
    exact shorter
  · exact shorter.trans_le (length_le_of_dropPrefix? dropped)

theorem readJoined?_of_read {isFirst : Bool} {text rest : List Char} {clause : Clause}
    (nonempty : text ≠ [])
    (read : (if isFirst then some text else text.dropPrefix? conjunction).bind read? =
      some (clause, rest)) :
    readJoined? isFirst text = (readJoined? false rest).map (clause :: ·) := by
  rw [readJoined?, if_neg (by simpa using nonempty)]
  split
  · rename_i unread
    rw [read] at unread
    cases unread
  · rename_i other behind found
    rw [read] at found
    cases found
    rfl

/-- A text with another one in place of each occurrence of a character. -/
def substitute (character : Char) (replacement text : List Char) : List Char :=
  text.flatMap fun other => if other = character then replacement else [other]

/-- First every backslash is doubled, then every mark gets one in front. -/
def escape (value : List Char) : List Char :=
  substitute '"' ['\\', '"'] (substitute '\\' ['\\', '\\'] value)

def spell (clause : Clause) : List Char :=
  clause.name.toList ++ sign ++ escape clause.value.toList ++ ['"']

def text (clause : Clause) : String := String.ofList clause.spell

/-- Both substitutions at once. -/
theorem escape_eq (value : List Char) : escape value = value.flatMap Filter.escapeChar := by
  rw [escape, substitute, substitute, List.flatMap_assoc]
  congr 1
  funext character
  by_cases isMark : character = '"'
  · subst isMark
    rfl
  · by_cases isBackslash : character = '\\'
    · subst isBackslash
      rfl
    · simp [Filter.escapeChar, isMark, isBackslash]

theorem readValue?_escaped (value rest : List Char) :
    readValue? (escape value ++ '"' :: rest) = some (value, rest) := by
  rw [escape_eq]
  induction value with
  | nil => rfl
  | cons character value ih =>
      -- A mark or a backslash is written as two characters, of which the reader keeps the second.
      by_cases isMark : character = '"'
      · subst isMark
        simp [Filter.escapeChar, readValue?, ih]
      · by_cases isBackslash : character = '\\'
        · subst isBackslash
          simp [Filter.escapeChar, readValue?, ih]
        · simp [Filter.escapeChar, isMark, isBackslash, readValue?, ih]

/-- What follows a spelled clause is left over. -/
theorem read?_spelled {clause : Clause}
    (named : ∀ character ∈ clause.name.toList, character.isAlpha) (rest : List Char) :
    read? (clause.spell ++ rest) = some (clause, rest) := by
  have split : clause.spell ++ rest = clause.name.toList ++
      (sign ++ (escape clause.value.toList ++ '"' :: rest)) := by
    simp [spell]
  have ends : ∀ first ∈ (sign ++ (escape clause.value.toList ++ '"' :: rest)).head?,
      first.isAlpha = false := by
    simp [sign]
  rw [read?, split, Text.takeWhile_run named ends, Text.dropWhile_run named ends,
    List.dropPrefix?_append_of_beq _ (beq_self_eq_true sign)]
  simp [readValue?_escaped]

def spellFurther (clauses : List Clause) : List Char :=
  clauses.flatMap fun clause => conjunction ++ clause.spell

theorem readJoined?_further {clauses : List Clause}
    (named : ∀ clause ∈ clauses, ∀ character ∈ clause.name.toList, character.isAlpha) :
    readJoined? false (spellFurther clauses) = some clauses := by
  induction clauses with
  | nil => simp [readJoined?, spellFurther]
  | cons clause clauses ih =>
      have following := ih fun other member => named other (List.mem_cons_of_mem _ member)
      have split : spellFurther (clause :: clauses) =
          conjunction ++ (clause.spell ++ spellFurther clauses) := by
        simp [spellFurther]
      have opened : (spellFurther (clause :: clauses)).dropPrefix? conjunction =
          some (clause.spell ++ spellFurther clauses) := by
        rw [split, List.dropPrefix?_append_of_beq _ (beq_self_eq_true conjunction)]
      have nonempty : spellFurther (clause :: clauses) ≠ [] := by
        simp [split, conjunction]
      have read := read?_spelled (named clause List.mem_cons_self) (spellFurther clauses)
      rw [readJoined?_of_read nonempty (by simpa [opened] using read), following]
      rfl

theorem readJoined?_all {clauses : List Clause}
    (named : ∀ clause ∈ clauses, ∀ character ∈ clause.name.toList, character.isAlpha) :
    readJoined? true (conjunction.intercalate (clauses.map spell)) = some clauses := by
  cases clauses with
  | nil => simp [readJoined?, List.intercalate]
  | cons clause clauses =>
      have further := readJoined?_further fun other member =>
        named other (List.mem_cons_of_mem _ member)
      have split : conjunction.intercalate ((clause :: clauses).map spell) =
          clause.spell ++ spellFurther clauses := by
        rw [List.map_cons, intercalate_cons, List.flatMap_map, spellFurther]
      have nonempty : clause.spell ++ spellFurther clauses ≠ [] := by simp [spell]
      have read := read?_spelled (named clause List.mem_cons_self) (spellFurther clauses)
      rw [split, readJoined?_of_read nonempty (by simpa using read), further]
      rfl

end Clause

namespace Filter

def front? (filter : Filter) : Option String := filter.project.map ("project = " ++ ·)

/-- The clauses on quoted values that a filter has. -/
def quoted (filter : Filter) : List Clause :=
  (filter.type.map fun type => ⟨"issuetype", type⟩).toList ++
    (filter.status.map fun status => ⟨"status", status⟩).toList

theorem alpha_of_mem_quoted {filter : Filter} :
    ∀ clause ∈ filter.quoted, ∀ character ∈ clause.name.toList, character.isAlpha := by
  have names : ∀ name ∈ ["issuetype", "status"], name.toList.all Char.isAlpha := by decide
  intro clause member
  refine List.all_eq_true.mp (names clause.name ?_)
  simp only [quoted, List.mem_append, Option.mem_toList, Option.map_eq_some_iff] at member
  rcases member with ⟨type, -, rfl⟩ | ⟨status, -, rfl⟩ <;> simp

theorem text_clause (name value : String) :
    (⟨name, value⟩ : Clause).text = name ++ " = " ++ quote value := by
  apply String.toList_injective
  simp [Clause.text, Clause.spell, Clause.sign, Clause.escape_eq, quote]

/-- The clauses of a filter are joined, those on its type and its status as quoted ones. -/
theorem text_eq_intercalate (filter : Filter) :
    filter.text = " AND ".intercalate (filter.front?.toList ++ filter.quoted.map Clause.text) := by
  obtain ⟨project, type, status⟩ := filter
  rw [text, clauses, front?, quoted]
  cases type <;> cases status <;> simp [text_clause]

theorem toList_join_clauses (clauses : List Clause) :
    (clauses.map Clause.text).map String.toList = clauses.map Clause.spell := by
  rw [List.map_map]
  exact List.map_congr_left fun clause _ => String.toList_ofList

/-- Whoever knows what stands in front reads the quoted clauses and comes to the end. -/
theorem exists_behind (filter : Filter) :
    ∃ behind, filter.text.toList = (filter.front?.getD "").toList ++ behind ∧
      Clause.readJoined? filter.project.isNone behind = some filter.quoted := by
  have joined : filter.text.toList = Clause.conjunction.intercalate
      (filter.front?.toList.map String.toList ++ filter.quoted.map Clause.spell) := by
    rw [text_eq_intercalate, String.toList_intercalate, List.map_append, toList_join_clauses]
    rfl
  cases given : filter.project with
  | none =>
      refine ⟨filter.text.toList, by simp [front?, given], ?_⟩
      have alone : filter.text.toList =
          Clause.conjunction.intercalate (filter.quoted.map Clause.spell) := by
        simpa [front?, given] using joined
      rw [alone]
      exact Clause.readJoined?_all alpha_of_mem_quoted
  | some project =>
      refine ⟨Clause.spellFurther filter.quoted, ?_, Clause.readJoined?_further alpha_of_mem_quoted⟩
      rw [joined, front?, given]
      simp [intercalate_cons, Clause.spellFurther, List.flatMap_map]

/-- The text of a filter consists of the clause on its project and of its clauses on quoted
values.  Whoever reads the latter comes to the end of the text and to the type and the status of
the filter, whatever characters they hold. -/
theorem quoted_values_read_back (filter : Filter) :
    filter.text = " AND ".intercalate (filter.front?.toList ++ filter.quoted.map Clause.text) ∧
      (∃ behind, filter.text.toList = (filter.front?.getD "").toList ++ behind ∧
        Clause.readJoined? filter.project.isNone behind = some filter.quoted) ∧
      (filter.quoted.find? (·.name = "issuetype")).map (·.value) = filter.type ∧
      (filter.quoted.find? (·.name = "status")).map (·.value) = filter.status := by
  refine ⟨filter.text_eq_intercalate, filter.exists_behind, ?_⟩
  obtain ⟨project, type, status⟩ := filter
  cases type <;> cases status <;> exact ⟨rfl, rfl⟩

example : Clause.readJoined? true "status = \"a\\\" AND b\\\\\"".toList =
    some [⟨"status", "a\" AND b\\"⟩] := by
  decide +kernel

end Filter

end IssueQuery
