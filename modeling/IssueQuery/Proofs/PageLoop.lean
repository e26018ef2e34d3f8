import IssueQuery.Proofs.Outcome
import IssueQuery.Service.Page
import Mathlib.Algebra.Group.Nat.Defs
import Mathlib.Control.Lawful

namespace IssueQuery

/-! One loop for pages by token and pages by offset.

Both are collected by the same loop (`Paging.collect`), which differs only in when a page is the
last one and in where the next one starts.  A turn of it fails, ends or goes on with the page that
has been fetched.
-/

/-- Whether a page names no successor, or says that it has none. -/
def TokenPage.Ends (page : TokenPage) : Prop :=
  page.isLast = true ∨ page.nextToken = none ∨ page.nextToken = some ""

instance (page : TokenPage) : Decidable page.Ends :=
  inferInstanceAs (Decidable (_ ∨ _ ∨ _))

theorem TokenPage.next?_eq_none_iff {page : TokenPage} : page.next? = none ↔ page.Ends := by
  cases last : page.isLast <;> cases named : page.nextToken <;>
    simp [next?, Ends, last, named, Option.filter]

theorem TokenPage.nextToken_of_next? {page : TokenPage} {next : String}
    (following : page.next? = some next) : page.nextToken = some next := by
  unfold next? at following
  split at following
  · cases following
  · exact (Option.filter_eq_some_iff.mp following).1

section Sums

variable {arithmetic : Arithmetic} {word : UInt64} {number : Nat}

theorem UInt64.toNat_add_toUInt64 (word : UInt64) (number : Nat) :
    (word + number.toUInt64).toNat = (word.toNat + number) % 2 ^ 64 := by
  rw [UInt64.toNat_add, Nat.toUInt64, UInt64.toNat_ofNat', Nat.add_mod_mod]

/-- As long as they are words, sums do not depend on how a program adds up. -/
theorem Arithmetic.add_of_lt (isWord : word.toNat + number < 2 ^ 64) :
    arithmetic.add word number = .ok (word + number.toUInt64) := by
  cases arithmetic with
  | checked => exact if_pos isWord
  | wrapping => rfl

theorem Arithmetic.checked_add_of_le (noWord : 2 ^ 64 ≤ word.toNat + number) :
    Arithmetic.checked.add word number = .error .overflow :=
  if_neg (Nat.not_lt.mpr noWord)

end Sums

namespace OffsetPage

variable {arithmetic : Arithmetic} {page : OffsetPage}

/-- How far a page reaches into the whole result. -/
def endAt (page : OffsetPage) : Nat := page.startAt.toNat + page.issues.length

/-- Whether a page reaches the total, or is empty. -/
def Ends (page : OffsetPage) : Prop := page.issues = [] ∨ page.total.toNat ≤ page.endAt

instance (page : OffsetPage) : Decidable page.Ends :=
  inferInstanceAs (Decidable (_ ∨ _))

theorem isLast_of_add {finish : UInt64}
    (added : arithmetic.add page.startAt page.issues.length = .ok finish) :
    page.isLast arithmetic =
      .ok (decide (page.issues = [] ∨ page.total.toNat ≤ finish.toNat)) := by
  rw [isLast, added]
  refine congrArg Except.ok (Bool.eq_iff_iff.mpr ?_)
  rw [Bool.or_eq_true, decide_eq_true_iff, decide_eq_true_iff, List.isEmpty_iff,
    UInt64.le_iff_toNat_le, or_comm]

theorem isLast_of_lt (isWord : page.endAt < 2 ^ 64) :
    page.isLast arithmetic = .ok (decide page.Ends) := by
  rw [isLast_of_add (Arithmetic.add_of_lt isWord), UInt64.toNat_add_toUInt64, ← endAt,
    Nat.mod_eq_of_lt isWord]
  rfl

theorem isLast_checked_of_le (noWord : 2 ^ 64 ≤ page.endAt) :
    page.isLast .checked = .error .overflow := by
  rw [isLast, Arithmetic.checked_add_of_le noWord]
  rfl

theorem isLast_wrapping (page : OffsetPage) :
    page.isLast .wrapping =
      .ok (decide (page.issues = [] ∨ page.total.toNat ≤ page.endAt % 2 ^ 64)) := by
  rw [isLast_of_add rfl, UInt64.toNat_add_toUInt64, endAt]

theorem eq_overflow_of_isLast {halt : Halt}
    (halts : page.isLast arithmetic = .error halt) :
    halt = .overflow ∧ arithmetic = .checked ∧ 2 ^ 64 ≤ page.endAt := by
  rcases Nat.lt_or_ge page.endAt (2 ^ 64) with isWord | noWord
  · rw [isLast_of_lt isWord] at halts
    cases halts
  · cases arithmetic with
    | checked =>
        rw [isLast_checked_of_le noWord] at halts
        cases halts
        exact ⟨rfl, rfl, noWord⟩
    | wrapping =>
        rw [isLast_wrapping] at halts
        cases halts

end OffsetPage

/-- How one gets from page to page. -/
structure Paging (Start Page : Type) where
  issues : Page → List Issue
  /-- Whether nothing follows a page. -/
  ends : Page → Except Halt Bool
  /-- Where the page starts that follows the one from a given start. -/
  advance : Start → Page → Start

namespace Paging

def byToken : Paging (Option String) TokenPage where
  issues := TokenPage.issues
  ends page := .ok page.next?.isNone
  advance _ page := page.nextToken

def byOffset (arithmetic : Arithmetic) : Paging UInt64 OffsetPage where
  issues := OffsetPage.issues
  ends := OffsetPage.isLast arithmetic
  advance offset page := offset + page.issues.length.toUInt64

theorem ends_byToken_iff {page : TokenPage} : byToken.ends page = .ok true ↔ page.Ends := by
  simp [byToken, TokenPage.next?_eq_none_iff]

theorem goesOn_byToken_iff {page : TokenPage} : byToken.ends page = .ok false ↔ ¬ page.Ends := by
  rw [← TokenPage.next?_eq_none_iff, ← Option.isNone_iff_eq_none, byToken, Except.ok.injEq,
    Bool.not_eq_true]

variable {m : Type → Type} [Monad m] {Start Page State : Type}

def collect (paging : Paging Start Page) (fetch : Start → m (Except ServiceError Page)) :
    (limit : Nat) → (start : Start) → ExceptT Halt m (Except ServiceError (List Issue))
  | 0, _ => throw .cutOff
  | limit + 1, start => do
      match ← fetch start with
      | .error cause => return .error cause
      | .ok page =>
          match paging.ends page with
          | .error halt => throw halt
          | .ok true => return .ok (paging.issues page)
          | .ok false =>
              match ← paging.collect fetch limit (paging.advance start page) with
              | .error cause => return .error cause
              | .ok others => return .ok (paging.issues page ++ others)

theorem collectByOffset_eq (arithmetic : Arithmetic)
    (fetch : UInt64 → m (Except ServiceError OffsetPage)) (limit : Nat) (offset : UInt64) :
    collectByOffset arithmetic fetch limit offset =
      (byOffset arithmetic).collect fetch limit offset := by
  induction limit generalizing offset with
  | zero => rfl
  | succ limit ih =>
      simp only [collectByOffset, collect, ih]
      congr 1
      funext reply
      cases reply with
      | error cause => rfl
      | ok page =>
          have judged : page.isLast arithmetic = (byOffset arithmetic).ends page := rfl
          dsimp only
          rw [judged]
          rcases (byOffset arithmetic).ends page with halt | _ | _ <;> rfl

theorem collectByToken_eq (fetch : Option String → m (Except ServiceError TokenPage)) (limit : Nat)
    (token : Option String) :
    collectByToken fetch limit token = byToken.collect fetch limit token := by
  induction limit generalizing token with
  | zero => rfl
  | succ limit ih =>
      simp only [collectByToken, collect, ih]
      congr 1
      funext reply
      cases reply with
      | error cause => rfl
      | ok page =>
          cases following : page.next? with
          | none => simp [byToken, following]
          | some next =>
              have leads : byToken.advance token page = some next :=
                TokenPage.nextToken_of_next? following
              simp only [byToken, following, Option.isNone_some]
              exact leads ▸ rfl

/-- A turn of the loop, told without the halts that pass through it. -/
theorem run_collect_succ [LawfulMonad m] (paging : Paging Start Page)
    (fetch : Start → m (Except ServiceError Page)) (limit : Nat) (start : Start) :
    (paging.collect fetch (limit + 1) start).run = (do
      match ← fetch start with
      | .error cause => return .ok (.error cause)
      | .ok page =>
          match paging.ends page with
          | .error halt => return .error halt
          | .ok true => return .ok (.ok (paging.issues page))
          | .ok false =>
              let others ← (paging.collect fetch limit (paging.advance start page)).run
              return others.map (Except.map (paging.issues page ++ ·))) := by
  simp only [collect, ExceptT.run_bind, ExceptT.run_liftM, bind_map_left]
  apply bind_congr
  intro reply
  cases reply with
  | error cause => rfl
  | ok page =>
      dsimp only
      rcases paging.ends page with halt | _ | _
      · rfl
      · simp only [ExceptT.run_bind]
        apply bind_congr
        rintro (halt | cause | others) <;> rfl
      · rfl

section Steps

variable {paging : Paging Start Page} {fetch : Start → StateM State (Except ServiceError Page)}
  {page : Page} {state following final : State} (limit : Nat) (start : Start)

theorem run_collect_of_error {cause : ServiceError}
    (answered : Id.run ((fetch start).run state) = (.error cause, following)) :
    Id.run ((paging.collect fetch (limit + 1) start).run.run state) =
      (.ok (.error cause), following) := by
  simp [run_collect_succ, answered]

theorem run_collect_of_halts {halt : Halt}
    (answered : Id.run ((fetch start).run state) = (.ok page, following))
    (halts : paging.ends page = .error halt) :
    Id.run ((paging.collect fetch (limit + 1) start).run.run state) =
      (.error halt, following) := by
  simp [run_collect_succ, answered, halts]

theorem run_collect_of_ends (answered : Id.run ((fetch start).run state) = (.ok page, following))
    (ends : paging.ends page = .ok true) :
    Id.run ((paging.collect fetch (limit + 1) start).run.run state) =
      (.ok (.ok (paging.issues page)), following) := by
  simp [run_collect_succ, answered, ends]

theorem run_collect_of_goesOn {others : Except Halt (Except ServiceError (List Issue))}
    (answered : Id.run ((fetch start).run state) = (.ok page, following))
    (goesOn : paging.ends page = .ok false)
    (ran : Id.run ((paging.collect fetch limit (paging.advance start page)).run.run following) =
      (others, final)) :
    Id.run ((paging.collect fetch (limit + 1) start).run.run state) =
      (others.map (Except.map (paging.issues page ++ ·)), final) := by
  simp [run_collect_succ, answered, goesOn, ran]

end Steps

end Paging

end IssueQuery
