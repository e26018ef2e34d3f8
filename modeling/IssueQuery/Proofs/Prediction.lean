import IssueQuery.Proofs.Derivation
import IssueQuery.Proofs.Layout
import Mathlib.Computability.MyhillNerode

namespace IssueQuery

/-! Reading with one token in view.

A reader decides by the next token how it goes on.  What it takes from the front it
therefore takes in front of everything that starts with the same token, and in the
same way it fails (`Predicts`).  So a fault stands where the tokens that were taken
cannot be continued by the next.
-/

/-- A reader of the front of tokens, which returns what it leaves. -/
abbrev Reader (α : Type) : Type := List Located → Except SyntaxError (α × List Located)

/-- Whether tokens can be completed to a word of a language by tokens that can be
written. -/
def Completable (language : Language Token) (tokens : List Token) : Prop :=
  ∃ further, (∀ token ∈ further, token.Writable) ∧ tokens ++ further ∈ language

/-- What a fault points at, behind the tokens that can be taken and in front of the
others: the first of these, or the end of the text.  Only of empty braces it is the
opening one, which can still be taken. -/
inductive Blames (finish : Nat) : SyntaxError → List Located → List Located → Prop
  | token {cause : SyntaxCause} {token : Token} {position : Nat} {earlier later : List Located}
      (ordinary : cause ≠ .emptyProjection) :
      Blames finish ⟨cause, position, token.text⟩ earlier (⟨token, position⟩ :: later)
  | finish {cause : SyntaxCause} {earlier : List Located} (ordinary : cause ≠ .emptyProjection) :
      Blames finish ⟨cause, finish, ""⟩ earlier []
  | braces {position closing : Nat} {earlier later : List Located} :
      Blames finish ⟨.emptyProjection, position, Token.text (.mark .openBrace)⟩
        (earlier ++ [⟨.mark .openBrace, position⟩]) (⟨.mark .closeBrace, closing⟩ :: later)

/-- A reader takes a word of a language from the front of tokens, or it finds a fault
behind the start of one.  Of what follows it sees only the first token. -/
structure Predicts {α : Type} (finish : Nat) (read : Reader α) (language : Language Token)
    (located : List Located) : Prop where
  takes : ∀ {value rest}, read located = .ok (value, rest) →
    ∃ front, located = front ++ rest ∧ bare front ∈ language ∧
      ∀ other, other.head? = rest.head? → read (front ++ other) = .ok (value, other)
  stops : ∀ {fault}, read located = .error fault →
    ∃ earlier later, located = earlier ++ later ∧ Blames finish fault earlier later ∧
      Completable language (bare earlier) ∧
      ∀ other, other.head? = later.head? → read (earlier ++ other) = .error fault

/-- Whether tokens start with a mark. -/
def Leads (mark : Mark) (located : List Located) : Prop :=
  ∃ position rest, located = ⟨.mark mark, position⟩ :: rest

theorem Leads.of_alike {mark : Mark} {located other : List Located} (leads : Leads mark other)
    (alike : other.head? = located.head?) : Leads mark located := by
  obtain ⟨position, rest, rfl⟩ := leads
  obtain ⟨tail, rfl⟩ := List.head?_eq_some_iff.mp alike.symm
  exact ⟨position, tail, rfl⟩

section Combinations

variable {α β : Type} {finish : Nat} {read same : Reader α}
  {language larger : Language Token} {located earlier later other rest : List Located}
  {fault : SyntaxError} {expected : Expectation}

@[simp] theorem bare_append (first second : List Located) :
    bare (first ++ second) = bare first ++ bare second := List.map_append

theorem head?_append_congr (front : List Located) (alike : other.head? = rest.head?) :
    (front ++ other).head? = (front ++ rest).head? := by
  rw [List.head?_append, List.head?_append, alike]

theorem Completable.of_mem {word : List Token} (member : word ∈ language) :
    Completable language word :=
  ⟨[], by simp, by rwa [List.append_nil]⟩

theorem Completable.of_append {tokens further : List Token}
    (writable : ∀ token ∈ further, token.Writable)
    (completable : Completable language (tokens ++ further)) : Completable language tokens := by
  obtain ⟨more, moreWritable, member⟩ := completable
  refine ⟨further ++ more, fun token listed => ?_, by rwa [← List.append_assoc]⟩
  exact (List.mem_append.mp listed).elim (writable token) (moreWritable token)

theorem Completable.mono {tokens : List Token} (included : ∀ word ∈ language, word ∈ larger)
    (completable : Completable language tokens) : Completable larger tokens := by
  obtain ⟨further, writable, member⟩ := completable
  exact ⟨further, writable, included _ member⟩

theorem Blames.behind (front : List Located) (blames : Blames finish fault earlier later) :
    Blames finish fault (front ++ earlier) later := by
  cases blames with
  | token ordinary => exact .token ordinary
  | finish ordinary => exact .finish ordinary
  | braces =>
      rw [← List.append_assoc]
      exact .braces

theorem Blames.word {cause : SyntaxCause} {name : String} {position : Nat}
    (ordinary : cause ≠ .emptyProjection) :
    Blames finish ⟨cause, position, name⟩ earlier (⟨.word name, position⟩ :: later) :=
  @Blames.token finish cause (.word name) position earlier later ordinary

theorem blames_unmet : Blames finish (unmet expected finish later) earlier later := by
  cases later with
  | nil => exact .finish (by simp)
  | cons head tail => exact .token (by simp)

theorem unmet_congr (alike : other.head? = later.head?) :
    unmet expected finish other = unmet expected finish later := by
  cases other <;> cases later <;> simp_all [unmet]

theorem skipMark_of_not_leads {mark : Mark} (apart : ¬ Leads mark located) :
    skipMark mark expected finish located = .error (unmet expected finish located) := by
  unfold skipMark
  split
  · rename_i found position rest
    have different : found ≠ mark := by
      rintro rfl
      exact apart ⟨position, rest, rfl⟩
    exact if_neg different
  · rfl

namespace Predicts

theorem mono (included : ∀ word ∈ language, word ∈ larger)
    (predicts : Predicts finish read language located) :
    Predicts finish read larger located where
  takes taken := by
    obtain ⟨front, split, member, again⟩ := predicts.takes taken
    exact ⟨front, split, included _ member, again⟩
  stops failed := by
    obtain ⟨earlier, later, split, blames, completable, again⟩ := predicts.stops failed
    exact ⟨earlier, later, split, blames, completable.mono included, again⟩

/-- A reader is told by the next token which other it is. -/
theorem congr (agrees : ∀ other : List Located, other.head? = located.head? →
      read other = same other)
    (predicts : Predicts finish same language located) :
    Predicts finish read language located where
  takes taken := by
    rw [agrees located rfl] at taken
    obtain ⟨front, rfl, member, again⟩ := predicts.takes taken
    refine ⟨front, rfl, member, fun other alike => ?_⟩
    rw [agrees _ (head?_append_congr front alike), again other alike]
  stops failed := by
    rw [agrees located rfl] at failed
    obtain ⟨earlier, later, rfl, blames, completable, again⟩ := predicts.stops failed
    refine ⟨earlier, later, rfl, blames, completable, fun other alike => ?_⟩
    rw [agrees _ (head?_append_congr earlier alike), again other alike]

theorem done (value : α) (nullable : [] ∈ language) :
    Predicts finish (fun located => .ok (value, located)) language located where
  takes taken := by
    cases taken
    exact ⟨[], rfl, nullable, fun _ _ => rfl⟩
  stops := nofun

/-- A reader that fails for a token that it has in view. -/
theorem refused (fault : SyntaxError) (earlier : List Located)
    (split : located = earlier ++ later) (blames : Blames finish fault earlier later)
    (completable : Completable language (bare earlier))
    (refuses : ∀ other : List Located, other.head? = later.head? →
      read (earlier ++ other) = .error fault) :
    Predicts finish read language located where
  takes taken := by
    rw [split, refuses later rfl] at taken
    cases taken
  stops failed := by
    rw [split, refuses later rfl] at failed
    cases failed
    exact ⟨earlier, later, split, blames, completable, refuses⟩

theorem unexpected (expected : Expectation) (completable : Completable language [])
    (refuses : ∀ other : List Located, other.head? = located.head? →
      read other = .error (unmet expected finish other)) :
    Predicts finish read language located :=
  refused _ [] rfl blames_unmet completable fun other alike => by
    rw [List.nil_append, refuses other alike, unmet_congr alike]

/-- A reader that has taken a token. -/
theorem cons {head : Located}
    (predicts : Predicts finish (fun rest => read (head :: rest))
      (language.leftQuotient [head.token]) rest) :
    Predicts finish read language (head :: rest) where
  takes taken := by
    obtain ⟨front, rfl, member, again⟩ := predicts.takes taken
    exact ⟨head :: front, rfl, member, again⟩
  stops failed := by
    obtain ⟨earlier, later, rfl, blames, ⟨further, writable, member⟩, again⟩ :=
      predicts.stops failed
    exact ⟨head :: earlier, later, rfl, blames.behind [head], ⟨further, writable, member⟩, again⟩

theorem map (transform : α → β) (predicts : Predicts finish read language located) :
    Predicts finish
      (fun located => (read located).map fun (value, rest) => (transform value, rest))
      language located where
  takes taken := by
    obtain ⟨⟨value, rest⟩, inner, equal⟩ := map_eq_ok_iff.mp taken
    cases equal
    obtain ⟨front, split, member, again⟩ := predicts.takes inner
    exact ⟨front, split, member, fun other alike => by rw [again other alike]; rfl⟩
  stops failed := by
    obtain ⟨earlier, later, split, blames, completable, again⟩ :=
      predicts.stops (map_eq_error_iff.mp failed)
    exact ⟨earlier, later, split, blames, completable,
      fun other alike => map_eq_error_iff.mpr (again other alike)⟩

/-- Behind the first word the second reader takes what completes it to a word of the whole. -/
theorem bind {first : Language Token} (next : α → Reader β)
    (predicts : Predicts finish read first located)
    (completable : ∀ word ∈ first, Completable language word)
    (following : ∀ value front rest, read located = .ok (value, rest) →
      located = front ++ rest → bare front ∈ first →
        Predicts finish (next value) (language.leftQuotient (bare front)) rest) :
    Predicts finish (fun located => read located >>= fun (value, rest) => next value rest)
      language located where
  takes taken := by
    obtain ⟨⟨value, rest⟩, inner, outer⟩ := bind_eq_ok_iff.mp taken
    obtain ⟨front, rfl, member, again⟩ := predicts.takes inner
    obtain ⟨second, rfl, secondMember, secondAgain⟩ :=
      (following value front rest inner rfl member).takes outer
    refine ⟨front ++ second, by simp, by simpa using secondMember, fun other alike => ?_⟩
    rw [List.append_assoc, again _ (head?_append_congr second alike)]
    exact secondAgain other alike
  stops failed := by
    rcases bind_eq_error_iff.mp failed with inner | ⟨⟨value, rest⟩, inner, outer⟩
    · obtain ⟨earlier, later, split, blames, ⟨further, writable, member⟩, again⟩ :=
        predicts.stops inner
      exact ⟨earlier, later, split, blames, (completable _ member).of_append writable,
        fun other alike => bind_eq_error_iff.mpr (.inl (again other alike))⟩
    · obtain ⟨front, rfl, member, again⟩ := predicts.takes inner
      obtain ⟨earlier, later, rfl, blames, ⟨further, writable, whole⟩, secondAgain⟩ :=
        (following value front rest inner rfl member).stops outer
      refine ⟨front ++ earlier, later, by simp, blames.behind front,
        ⟨further, writable, by simpa using whole⟩, fun other alike => ?_⟩
      rw [List.append_assoc, again _ (head?_append_congr earlier alike)]
      exact secondAgain other alike

theorem mark {mark : Mark} (completable : Completable language [])
    (following : ∀ rest, Predicts finish read (language.leftQuotient [.mark mark]) rest) :
    Predicts finish (fun located => skipMark mark expected finish located >>= read)
      language located := by
  by_cases leads : Leads mark located
  · obtain ⟨position, rest, rfl⟩ := leads
    refine cons (congr (fun other _ => ?_) (following rest))
    simp [skipMark, Bind.bind, Except.bind]
  · refine unexpected expected completable fun other alike => ?_
    rw [skipMark_of_not_leads fun found => leads (found.of_alike alike)]
    rfl

end Predicts

end Combinations

end IssueQuery
