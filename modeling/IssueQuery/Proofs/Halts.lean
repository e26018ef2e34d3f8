import IssueQuery.Proofs.PageLoop
import IssueQuery.Query.Execution
import IssueQuery.Service.Client
import Mathlib.Control.Lawful

namespace IssueQuery

/-! Halts on the way to a result.

Handlers do not halt by themselves: where a query halts, one of the calls it makes has halted.
Of a client only searches do, and none of them at a sum of words unless such sums are checked.
-/

variable {State First Result : Type} {halt : Halt}

/-- Whether a program halts, from some state on. -/
def Halts (program : ExceptT Halt (StateM State) Result) (halt : Halt) : Prop :=
  ∃ before after, Id.run (program.run.run before) = (.error halt, after)

namespace Halts

theorem not_pure (result : Result) :
    ¬ Halts (pure result : ExceptT Halt (StateM State) Result) halt := by
  rintro ⟨before, after, ⟨⟩⟩

theorem not_lift (action : StateM State Result) :
    ¬ Halts (liftM action : ExceptT Halt (StateM State) Result) halt := by
  rintro ⟨before, after, ⟨⟩⟩

/-- What halts in two parts halts in one of them. -/
theorem of_bind {first : ExceptT Halt (StateM State) First}
    {next : First → ExceptT Halt (StateM State) Result} (halts : Halts (first >>= next) halt) :
    Halts first halt ∨ ∃ value, Halts (next value) halt := by
  obtain ⟨before, after, ran⟩ := halts
  cases started : Id.run (first.run.run before) with
  | mk outcome between =>
      cases outcome with
      | error reason =>
          have same : reason = halt := by simpa [started] using congrArg Prod.fst ran
          exact .inl ⟨before, between, same ▸ started⟩
      | ok value => exact .inr ⟨value, between, after, by simpa [started] using ran⟩

end Halts

section Queries

variable {answer : (call : Call) → ExceptT Halt (StateM State) (Except ServiceError call.Answer)}

theorem Handler.exists_call_halts {handler : Handler Result}
    (halts : Halts (handler.run answer) halt) : ∃ call, Halts (answer call) halt := by
  induction handler with
  | done result => exact absurd halts (Halts.not_pure _)
  | fail error => exact absurd halts (Halts.not_pure _)
  | ask call next ih =>
      rw [run] at halts
      rcases halts.of_bind with asked | ⟨outcome, later⟩
      · exact ⟨call, asked⟩
      · cases outcome with
        | error cause => exact absurd later (Halts.not_pure _)
        | ok value => exact ih value later

theorem exists_call_halts_of_executeStatements {scope : Scope} {statements : List Statement}
    {index : Nat} (halts : Halts (executeStatements answer scope index statements) halt) :
    ∃ call, Halts (answer call) halt := by
  induction statements generalizing index with
  | nil => exact absurd halts (Halts.not_pure _)
  | cons statement rest ih =>
      rcases halts.of_bind with alone | ⟨outcome, later⟩
      · exact Handler.exists_call_halts alone
      · cases outcome with
        | error cause => exact absurd later (Halts.not_pure _)
        | ok value =>
            rcases later.of_bind with others | ⟨outcome, last⟩
            · exact ih others
            · cases outcome with
              | error error => exact absurd last (Halts.not_pure _)
              | ok values => exact absurd last (Halts.not_pure _)

end Queries

/-- A search only halts where it cannot tell whether a page is the last one, or where it is
cut off. -/
theorem Paging.eq_cutOff_or_of_halts {Start Page : Type} {paging : Paging Start Page}
    {fetch : Start → StateM State (Except ServiceError Page)} {limit : Nat} {start : Start}
    (halts : Halts (paging.collect fetch limit start) halt) :
    halt = .cutOff ∨ ∃ page, paging.ends page = .error halt := by
  induction limit generalizing start with
  | zero =>
      obtain ⟨before, after, ⟨⟩⟩ := halts
      exact .inl rfl
  | succ limit ih =>
      rcases halts.of_bind with fetched | ⟨reply, turn⟩
      · exact absurd fetched (Halts.not_lift _)
      · cases reply with
        | error cause => exact absurd turn (Halts.not_pure _)
        | ok page =>
            dsimp only at turn
            rcases judged : paging.ends page with reason | last | last
            · rw [judged] at turn
              obtain ⟨before, after, ⟨⟩⟩ := turn
              exact .inr ⟨page, judged⟩
            · rw [judged] at turn
              rcases turn.of_bind with behind | ⟨outcome, last⟩
              · exact ih behind
              · cases outcome with
                | error cause => exact absurd last (Halts.not_pure _)
                | ok others => exact absurd last (Halts.not_pure _)
            · rw [judged] at turn
              exact absurd turn (Halts.not_pure _)

namespace Client

variable {arithmetic : Arithmetic} {transport : Transport (StateM State)} {limit : Nat}
  {client : Client}

theorem checked_of_search_overflow {search : Search}
    (halts : Halts (client.search arithmetic transport limit search) .overflow) :
    arithmetic = .checked := by
  unfold Client.search at halts
  split at halts
  · rw [Paging.collectByToken_eq] at halts
    rcases Paging.eq_cutOff_or_of_halts halts with cut | ⟨page, judged⟩
    · cases cut
    · cases judged
  · rw [Paging.collectByOffset_eq] at halts
    rcases Paging.eq_cutOff_or_of_halts halts with cut | ⟨page, judged⟩
    · cases cut
    · exact (OffsetPage.eq_overflow_of_isLast judged).2.1

/-- Where sums wrap around, no call of a client halts at one. -/
theorem checked_of_answer_overflow {call : Call}
    (halts : Halts (client.answer arithmetic transport limit call) .overflow) :
    arithmetic = .checked := by
  cases call with
  | issues filter fields => exact checked_of_search_overflow halts
  | search text fields => exact checked_of_search_overflow halts
  | _ => exact absurd halts (Halts.not_lift _)

theorem checked_of_execute_overflow {query : Query} {scope : Scope}
    (halts : Halts (query.execute (client.answer arithmetic transport limit) scope) .overflow) :
    arithmetic = .checked := by
  obtain ⟨call, halted⟩ := exists_call_halts_of_executeStatements halts
  exact checked_of_answer_overflow halted

end Client

end IssueQuery
