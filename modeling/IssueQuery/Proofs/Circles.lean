import IssueQuery.Proofs.PageScripts
import Mathlib.Data.List.Iterate
import Mathlib.Data.Nat.Find
import Mathlib.Data.Set.Finite.Basic

namespace IssueQuery

/-! Searches that come back to a token.

A search by token follows the pages wherever they lead, and remembers none of the tokens it has
asked for.  Whether it comes back to one is therefore up to the service.  If the service always
has the same page for a token, a search that came back would do so forever: one that ends has
been nowhere twice.
-/

abbrev TokenSite := Option String → TokenPage

namespace TokenSite

variable (site : TokenSite)

/-- Gives the page of a token, and takes note of the token. -/
def answer (token : Option String) :
    StateM (List (Option String)) (Except ServiceError TokenPage) := do
  modify (· ++ [token])
  return .ok (site token)

/-- What a search in at most `limit` pages comes to, and the tokens it asks for. -/
def searched (limit : Nat) :
    Except Halt (Except ServiceError (List Issue)) × List (Option String) :=
  Id.run ((collectByToken site.answer limit none).run.run [])

/-- Where the page of a token leads. -/
def next (token : Option String) : Option String := (site token).nextToken

variable {site} {token : Option String} {asked : List (Option String)} {limit count : Nat}

theorem run_collect_of_ending (goesOn : ∀ index < count, ¬ (site (site.next^[index] token)).Ends)
    (ends : (site (site.next^[count] token)).Ends) (within : count < limit) :
    Id.run ((Paging.byToken.collect site.answer limit token).run.run asked) =
      (.ok (.ok ((List.iterate site.next token (count + 1)).flatMap fun token =>
          (site token).issues)),
        asked ++ List.iterate site.next token (count + 1)) := by
  induction count generalizing token asked limit with
  | zero =>
      obtain ⟨limit, rfl⟩ := Nat.exists_eq_succ_of_ne_zero (Nat.ne_zero_of_lt within)
      have answered :
          Id.run ((site.answer token).run asked) = (.ok (site token), asked ++ [token]) := rfl
      rw [Paging.run_collect_of_ends limit token answered (Paging.ends_byToken_iff.mpr ends)]
      simp [Paging.byToken]
  | succ count ih =>
      obtain ⟨limit, rfl⟩ := Nat.exists_eq_succ_of_ne_zero (Nat.ne_zero_of_lt within)
      have answered :
          Id.run ((site.answer token).run asked) = (.ok (site token), asked ++ [token]) := rfl
      have here : Paging.byToken.ends (site token) = .ok false :=
        Paging.goesOn_byToken_iff.mpr (goesOn 0 (Nat.succ_pos count))
      have later := @ih (site.next token) (asked ++ [token]) limit
        (fun index before => goesOn (index + 1) (Nat.succ_lt_succ before)) ends
        (Nat.lt_of_succ_lt_succ within)
      rw [Paging.run_collect_of_goesOn limit token answered here later, List.iterate,
        List.flatMap_cons, List.append_assoc]
      rfl

theorem run_collect_of_unending
    (goesOn : ∀ index < limit, ¬ (site (site.next^[index] token)).Ends) :
    Id.run ((Paging.byToken.collect site.answer limit token).run.run asked) =
      (.error .cutOff, asked ++ List.iterate site.next token limit) := by
  induction limit generalizing token asked with
  | zero => simp [Paging.collect]
  | succ limit ih =>
      have answered :
          Id.run ((site.answer token).run asked) = (.ok (site token), asked ++ [token]) := rfl
      have here : Paging.byToken.ends (site token) = .ok false :=
        Paging.goesOn_byToken_iff.mpr (goesOn 0 (Nat.succ_pos limit))
      have later := @ih (site.next token) (asked ++ [token])
        (fun index before => goesOn (index + 1) (Nat.succ_lt_succ before))
      rw [Paging.run_collect_of_goesOn limit token answered here later, List.iterate,
        List.append_assoc]
      rfl

variable (site) in
/-- A search ends with the first page that ends it, if that is within its limit. -/
theorem searched_cases (limit : Nat) :
    (∃ count < limit, (∀ index < count, ¬ (site (site.next^[index] none)).Ends) ∧
      (site (site.next^[count] none)).Ends ∧
      site.searched limit =
        (.ok (.ok ((List.iterate site.next none (count + 1)).flatMap fun token =>
            (site token).issues)),
          List.iterate site.next none (count + 1))) ∨
    (∀ index < limit, ¬ (site (site.next^[index] none)).Ends) ∧
      site.searched limit = (.error .cutOff, List.iterate site.next none limit) := by
  rw [searched, Paging.collectByToken_eq]
  by_cases ending : ∃ index < limit, (site (site.next^[index] none)).Ends
  · left
    have found := Nat.find_spec ending
    have goesOn : ∀ index < Nat.find ending, ¬ (site (site.next^[index] none)).Ends :=
      fun index before ends => Nat.find_min ending before ⟨before.trans found.1, ends⟩
    exact ⟨_, found.1, goesOn, found.2, run_collect_of_ending goesOn found.2 found.1⟩
  · right
    have goesOn : ∀ index < limit, ¬ (site (site.next^[index] none)).Ends :=
      fun index before ends => ending ⟨index, before, ends⟩
    exact ⟨goesOn, run_collect_of_unending goesOn⟩

/-- Up to the first page that ends a search no token comes twice: from the second time on
everything would be as from the first, and the search would have ended before. -/
theorem ne_of_lt_of_ending {first second : Nat}
    (goesOn : ∀ index < count, ¬ (site (site.next^[index] token)).Ends)
    (ends : (site (site.next^[count] token)).Ends) (less : first < second)
    (within : second ≤ count) : site.next^[first] token ≠ site.next^[second] token := by
  intro same
  have earlier : site.next^[count - second + first] token = site.next^[count] token := by
    rw [Function.iterate_add_apply, same, ← Function.iterate_add_apply, Nat.sub_add_cancel within]
  exact goesOn (count - second + first) (by omega) (earlier ▸ ends)

theorem nodup_iterate_iff :
    (List.iterate site.next token count).Nodup ↔
      ∀ second < count, ∀ first < second, site.next^[first] token ≠ site.next^[second] token := by
  rw [List.Nodup, List.pairwise_iff_getElem]
  simp only [List.getElem_iterate, List.length_iterate]
  exact ⟨fun apart second within first less => apart first second (less.trans within) within less,
    fun apart first second _ within less => apart second within first less⟩

theorem nodup_of_ending (goesOn : ∀ index < count, ¬ (site (site.next^[index] none)).Ends)
    (ends : (site (site.next^[count] none)).Ends) (limit : Nat) :
    (site.searched limit).2.Nodup := by
  rcases site.searched_cases limit with ⟨other, -, alsoGoesOn, alsoEnds, ran⟩ | ⟨unending, ran⟩
  · rw [ran, nodup_iterate_iff]
    exact fun second within first less =>
      ne_of_lt_of_ending alsoGoesOn alsoEnds less (Nat.le_of_lt_succ within)
  · rw [ran, nodup_iterate_iff]
    -- A search that has not ended by its limit is cut off in front of the end.
    have before : limit ≤ count := Nat.le_of_not_lt fun behind => unending count behind ends
    exact fun second within first less => ne_of_lt_of_ending goesOn ends less (by omega)

theorem issues_eq_of_ok {issues : List Issue} (ended : (site.searched limit).1 = .ok (.ok issues)) :
    issues = (site.searched limit).2.flatMap fun token => (site token).issues := by
  rcases site.searched_cases limit with ⟨count, -, -, -, ran⟩ | ⟨-, ran⟩
  · rw [ran] at ended ⊢
    exact (Except.ok.inj (Except.ok.inj ended)).symm
  · rw [ran] at ended
    cases ended

theorem nodup_of_ok {issues : List Issue} (ended : (site.searched limit).1 = .ok (.ok issues))
    (other : Nat) : (site.searched other).2.Nodup := by
  rcases site.searched_cases limit with ⟨count, -, goesOn, ends, -⟩ | ⟨-, ran⟩
  · exact nodup_of_ending goesOn ends other
  · rw [ran] at ended
    cases ended

/-- Where there are only so many tokens to go to, never to come back to one means to end. -/
theorem exists_ok_of_nodup (finite : (Set.range fun token => (site token).nextToken).Finite)
    (apart : ∀ limit, (site.searched limit).2.Nodup) :
    ∃ limit issues, (site.searched limit).1 = .ok (.ok issues) := by
  by_contra unending
  have endless (limit : Nat) : (site.searched limit).2 = List.iterate site.next none limit := by
    rcases site.searched_cases limit with ⟨count, -, -, -, ran⟩ | ⟨-, ran⟩
    · exact absurd ⟨limit, _, by rw [ran]⟩ unending
    · rw [ran]
  have injective : Function.Injective fun index => site.next^[index + 1] none := by
    intro first second same
    have different := fun limit => nodup_iterate_iff.mp (endless limit ▸ apart limit)
    rcases Nat.lt_trichotomy first second with less | equal | greater
    · exact absurd same (different (second + 2) (second + 1) (by omega) (first + 1) (by omega))
    · exact equal
    · exact absurd same.symm (different (first + 2) (first + 1) (by omega) (second + 1) (by omega))
  refine Set.infinite_of_injective_forall_mem injective (fun index => ?_) finite
  rw [Function.iterate_succ_apply']
  exact ⟨_, rfl⟩

end TokenSite

/-- Along a script, a search by token asks for the tokens of the pages it follows, each as often
as it is named there; so it asks for none twice if and only if none is named twice.  Of a service
that always has the same page for a token, a search that ends has asked for no token twice, and
has the issues of each of its pages once.  If there are finitely many tokens, a search ends if and
only if it asks for none twice. -/
theorem tokens_asked_for_as_named :
    (∀ (failure : ServiceError) (pages : List TokenPage) (limit : Nat), pages.length < limit →
      ∃ followed rest, CutAtEnd TokenPage.Ends pages followed rest ∧
        let asked := (Id.run ((collectByToken (PageScript.turn failure) limit none).run.run
          ⟨pages, []⟩)).2.asked
        asked = none :: followed.map TokenPage.nextToken ∧
        (asked.Nodup ↔ (followed.map TokenPage.nextToken).Nodup)) ∧
    ∀ site : TokenSite,
      (∀ limit issues, (site.searched limit).1 = .ok (.ok issues) →
        (∀ other, (site.searched other).2.Nodup) ∧
        issues = (site.searched limit).2.flatMap fun token => (site token).issues) ∧
      ((Set.range fun token => (site token).nextToken).Finite →
        ((∃ limit issues, (site.searched limit).1 = .ok (.ok issues)) ↔
          ∀ limit, (site.searched limit).2.Nodup)) := by
  constructor
  · intro failure pages limit enough
    obtain ⟨followed, rest, cut, ran⟩ := collectByToken_script failure enough
    have named : none ∉ followed.map TokenPage.nextToken := by
      intro member
      obtain ⟨page, isFollowed, unnamed⟩ := List.mem_map.mp member
      exact cut.goesOn page isFollowed (.inr (.inl unnamed))
    refine ⟨followed, rest, cut, ?_⟩
    simp only [ran, List.nodup_cons, named, not_false_eq_true, true_and]
  · intro site
    refine ⟨fun limit issues ended =>
      ⟨TokenSite.nodup_of_ok ended, TokenSite.issues_eq_of_ok ended⟩, fun finite =>
        ⟨fun ⟨limit, issues, ended⟩ => TokenSite.nodup_of_ok ended,
          TokenSite.exists_ok_of_nodup finite⟩⟩

/-- Every page leads to the same one. -/
def roundSite : TokenSite := fun _ => { issues := [issueOfKey "A-1"], nextToken := some "t" }

/-- The first page leads to the second, which leads nowhere. -/
def straightSite : TokenSite
  | none => { issues := [issueOfKey "A-1"], nextToken := some "t" }
  | some _ => { issues := [issueOfKey "A-2"] }

theorem straight_ends_and_round_does_not :
    (∃ followed rest, CutAtEnd TokenPage.Ends contradictoryPages followed rest ∧
      ((Id.run ((collectByToken (PageScript.turn noPage) 4 none).run.run
        ⟨contradictoryPages, []⟩)).2.asked.Nodup ↔ (followed.map TokenPage.nextToken).Nodup)) ∧
    (straightSite.searched 2).1 = .ok (.ok [issueOfKey "A-1", issueOfKey "A-2"]) ∧
    (∀ other, (straightSite.searched other).2.Nodup) ∧
    ¬ ∃ limit issues, (roundSite.searched limit).1 = .ok (.ok issues) := by
  obtain ⟨ofScripts, ofSites⟩ := tokens_asked_for_as_named
  have ended : (straightSite.searched 2).1 = .ok (.ok [issueOfKey "A-1", issueOfKey "A-2"]) := rfl
  have finite : (Set.range fun token => (roundSite token).nextToken).Finite :=
    (Set.finite_singleton (some "t")).subset (by rintro _ ⟨token, rfl⟩; rfl)
  refine ⟨?_, ended, ((ofSites straightSite).1 2 _ ended).1, ?_⟩
  · obtain ⟨followed, rest, cut, -, once⟩ := ofScripts noPage contradictoryPages 4 (by decide)
    exact ⟨followed, rest, cut, once⟩
  · rw [(ofSites roundSite).2 finite]
    intro apart
    exact absurd (apart 3) (by decide : ¬ [none, some "t", some "t"].Nodup)

/-- Two pages name the same token. -/
def repeatingPages : List TokenPage :=
  [{ issues := [issueOfKey "A-1"], nextToken := some "t" },
    { issues := [issueOfKey "A-2"], nextToken := some "t" }, { issues := [issueOfKey "A-2"] }]

/-- A token that is named again is asked for again, and where it always is, there is no end. -/
theorem repeated_token_asked_for_again :
    Id.run ((collectByToken (PageScript.turn noPage) 4 none).run.run ⟨repeatingPages, []⟩) =
        (.ok (.ok (["A-1", "A-2", "A-2"].map issueOfKey)), ⟨[], [none, some "t", some "t"]⟩) ∧
      ¬ [none, some "t", some "t"].Nodup ∧
      ∀ limit, (roundSite.searched limit).1 = .error .cutOff := by
  refine ⟨rfl, by decide, fun limit => ?_⟩
  have goesOn : ∀ index < limit, ¬ (roundSite (roundSite.next^[index] none)).Ends :=
    fun index _ => (by decide : ¬ (roundSite none).Ends)
  rw [TokenSite.searched, Paging.collectByToken_eq, TokenSite.run_collect_of_unending goesOn]

end IssueQuery
