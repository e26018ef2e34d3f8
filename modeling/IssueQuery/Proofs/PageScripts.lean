import IssueQuery.Proofs.Paging
import Mathlib.Data.List.Infix

namespace IssueQuery

/-! Searches along a script.

A script says which pages a service gives one after the other, whatever it is asked for, and with
which error it fails behind them.  What a search makes of a script is told from the pages alone.
-/

/-- The pages of a script that are still to come, and what was asked for so far. -/
structure PageScript (Start Page : Type) where
  coming : List Page
  asked : List Start

/-- Gives the next page of a script, and behind the last one the failure. -/
def PageScript.turn {Start Page : Type} (failure : ServiceError) (start : Start) :
    StateM (PageScript Start Page) (Except ServiceError Page) := fun script =>
  (match script.coming with
    | [] => .error failure
    | page :: _ => .ok page,
    ⟨script.coming.tail, script.asked ++ [start]⟩)

/-- Pages, cut in front of the first that ends a search, if there is one. -/
structure CutAtEnd {Page : Type} (Ends : Page → Prop) (pages followed rest : List Page) :
    Prop where
  split : pages = followed ++ rest
  goesOn : ∀ page ∈ followed, ¬ Ends page
  stops : ∀ last ∈ rest.head?, Ends last

/-- The issues of the pages that are followed and of the one behind them.  If there is none,
there is nothing but the failure. -/
def issuesOrFailure {Page : Type} (issues : Page → List Issue) (failure : ServiceError)
    (followed rest : List Page) : Except ServiceError (List Issue) :=
  match rest with
  | [] => .error failure
  | last :: _ => .ok ((followed ++ [last]).flatMap issues)

namespace CutAtEnd

variable {Page : Type} {Ends Other : Page → Prop} {pages followed rest : List Page}

theorem congr (cut : CutAtEnd Ends pages followed rest)
    (same : ∀ page ∈ pages, (Ends page ↔ Other page)) : CutAtEnd Other pages followed rest where
  split := cut.split
  goesOn page member := by
    rw [← same page (cut.split ▸ List.mem_append_left _ member)]
    exact cut.goesOn page member
  stops last member := by
    rw [← same last (cut.split ▸ List.mem_append_right _ (List.mem_of_mem_head? member))]
    exact cut.stops last member

theorem cons {page : Page} (goesOn : ¬ Ends page) (cut : CutAtEnd Ends pages followed rest) :
    CutAtEnd Ends (page :: pages) (page :: followed) rest :=
  ⟨by rw [cut.split, List.cons_append], List.forall_mem_cons.mpr ⟨goesOn, cut.goesOn⟩, cut.stops⟩

/-- There is only one way to cut pages. -/
theorem unique {front behind : List Page} (cut : CutAtEnd Ends pages followed rest)
    (other : CutAtEnd Ends pages front behind) : followed = front ∧ rest = behind := by
  have joined : followed ++ rest = front ++ behind := cut.split.symm.trans other.split
  rcases List.append_eq_append_iff.mp joined with ⟨between, longer, same⟩ | ⟨between, longer, same⟩
  all_goals
    cases between with
    | nil => simp_all
    | cons page more => ?_
  · exact absurd (cut.stops page (by simp [same])) (other.goesOn page (by simp [longer]))
  · exact absurd (other.stops page (by simp [same])) (cut.goesOn page (by simp [longer]))

end CutAtEnd

namespace Paging

variable {Start Page : Type} (paging : Paging Start Page) (failure : ServiceError) {start : Start}
  {pages followed rest : List Page} {asked : List Start}

/-- The same where it may be impossible to tell whether the page behind those that are followed
is the last one. -/
def outcome (followed rest : List Page) : Except Halt (Except ServiceError (List Issue)) :=
  match rest with
  | [] => .ok (.error failure)
  | last :: _ => (paging.ends last).map fun _ => .ok ((followed ++ [last]).flatMap paging.issues)

theorem outcome_cons (page : Page) (followed rest : List Page) :
    paging.outcome failure (page :: followed) rest =
      (paging.outcome failure followed rest).map (Except.map (paging.issues page ++ ·)) := by
  cases rest with
  | nil => rfl
  | cons last rest => cases ends : paging.ends last <;> simp [outcome, ends, Except.map]

theorem outcome_of_ok (judged : ∀ last ∈ rest.head?, ∃ ends, paging.ends last = .ok ends) :
    paging.outcome failure followed rest =
      .ok (issuesOrFailure paging.issues failure followed rest) := by
  cases rest with
  | nil => rfl
  | cons last rest =>
      obtain ⟨ends, found⟩ := judged last rfl
      simp [outcome, issuesOrFailure, found, Except.map]

/-- Every page up to the first that does not go on is asked for, from where the ones in front
of it lead. -/
theorem run_collect_turn {limit : Nat} (enough : pages.length < limit) :
    ∃ followed rest, CutAtEnd (paging.ends · ≠ .ok false) pages followed rest ∧
      Id.run ((paging.collect (PageScript.turn failure) limit start).run.run ⟨pages, asked⟩) =
        (paging.outcome failure followed rest,
          ⟨rest.tail, asked ++ followed.scanl paging.advance start⟩) := by
  induction pages generalizing limit start asked with
  | nil =>
      obtain ⟨limit, rfl⟩ := Nat.exists_eq_succ_of_ne_zero (Nat.ne_zero_of_lt enough)
      exact ⟨[], [], ⟨rfl, by simp, by simp⟩, run_collect_of_error limit start rfl⟩
  | cons page pages ih =>
      obtain ⟨limit, rfl⟩ := Nat.exists_eq_succ_of_ne_zero (Nat.ne_zero_of_lt enough)
      have turned : Id.run ((PageScript.turn failure start).run ⟨page :: pages, asked⟩) =
          (.ok page, ⟨pages, asked ++ [start]⟩) := rfl
      rcases judged : paging.ends page with halt | last | last
      · refine ⟨[], page :: pages, ⟨rfl, by simp, by simp [judged]⟩, ?_⟩
        rw [run_collect_of_halts limit start turned judged]
        simp [outcome, judged, Except.map]
      · obtain ⟨followed, rest, cut, ran⟩ :=
          @ih (paging.advance start page) (asked ++ [start]) limit (Nat.lt_of_succ_lt_succ enough)
        refine ⟨page :: followed, rest, cut.cons (not_not.mpr judged), ?_⟩
        rw [run_collect_of_goesOn limit start turned judged ran, outcome_cons, List.scanl_cons,
          List.append_assoc, List.singleton_append]
      · refine ⟨[], page :: pages, ⟨rfl, by simp, by simp [judged]⟩, ?_⟩
        rw [run_collect_of_ends limit start turned judged]
        simp [outcome, judged, Except.map]

end Paging

/-- How many issues the pages in front of each page hold, and all pages together. -/
def receivedBefore (pages : List OffsetPage) : List Nat :=
  pages.inits.map fun front => (front.flatMap OffsetPage.issues).length

theorem receivedBefore_cons (page : OffsetPage) (pages : List OffsetPage) :
    receivedBefore (page :: pages) = 0 :: (receivedBefore pages).map (page.issues.length + ·) := by
  simp only [receivedBefore, List.inits_cons, List.map_cons, List.map_map, List.flatMap_nil,
    List.length_nil]
  congr 2
  funext front
  simp

theorem scanl_advance_byOffset (arithmetic : Arithmetic) (pages : List OffsetPage)
    (count : Nat) :
    pages.scanl (Paging.byOffset arithmetic).advance count.toUInt64 =
      (receivedBefore pages).map fun number => (count + number).toUInt64 := by
  induction pages generalizing count with
  | nil => rfl
  | cons page pages ih =>
      have next : (Paging.byOffset arithmetic).advance count.toUInt64 page =
          (count + page.issues.length).toUInt64 := (UInt64.ofNat_add _ _).symm
      rw [List.scanl_cons, next, ih, receivedBefore_cons, List.map_cons, List.map_map]
      simp only [Nat.add_zero, Function.comp_def, Nat.add_assoc]

theorem receivedBefore_ascends {pages : List OffsetPage}
    (nonempty : ∀ page ∈ pages, page.issues ≠ []) : (receivedBefore pages).Pairwise (· < ·) := by
  induction pages with
  | nil => exact List.pairwise_singleton _ _
  | cons page pages ih =>
      obtain ⟨here, later⟩ := List.forall_mem_cons.mp nonempty
      have positive := List.length_pos_iff.mpr here
      rw [receivedBefore_cons, List.pairwise_cons, List.pairwise_map]
      refine ⟨fun number member => ?_, (ih later).imp fun less => Nat.add_lt_add_left less _⟩
      obtain ⟨other, -, rfl⟩ := List.mem_map.mp member
      omega

theorem le_of_mem_receivedBefore {pages : List OffsetPage} {number : Nat}
    (member : number ∈ receivedBefore pages) :
    number ≤ (pages.flatMap OffsetPage.issues).length := by
  obtain ⟨front, inFront, rfl⟩ := List.mem_map.mp member
  obtain ⟨behind, rfl⟩ := (List.mem_inits front pages).mp inFront
  simp

theorem offsets_ascend {pages : List OffsetPage} (nonempty : ∀ page ∈ pages, page.issues ≠ [])
    (counted : (pages.flatMap OffsetPage.issues).length < 2 ^ 64) :
    ((receivedBefore pages).map Nat.toUInt64).Pairwise (· < ·) := by
  rw [List.pairwise_map]
  refine (receivedBefore_ascends nonempty).imp_of_mem fun {first second} _ isSecond less => ?_
  have bounded := (le_of_mem_receivedBefore isSecond).trans_lt counted
  have same {number : Nat} (small : number < 2 ^ 64) : number.toUInt64.toNat = number :=
    UInt64.toNat_ofNat_of_lt' small
  rwa [UInt64.lt_iff_toNat_lt, same bounded, same (less.trans bounded)]

section Scripts

variable (failure : ServiceError) {limit : Nat}

theorem scanl_advance_byToken (pages : List TokenPage) (token : Option String) :
    pages.scanl Paging.byToken.advance token = token :: pages.map TokenPage.nextToken := by
  induction pages generalizing token with
  | nil => rfl
  | cons page pages ih => rw [List.scanl_cons, ih, List.map_cons, Paging.byToken]

theorem ok_decide_ne_false_iff {claim : Prop} [Decidable claim] :
    (Except.ok (decide claim) : Except Halt Bool) ≠ .ok false ↔ claim := by
  simp

theorem collectByToken_script {pages : List TokenPage} (enough : pages.length < limit) :
    ∃ followed rest, CutAtEnd TokenPage.Ends pages followed rest ∧
      Id.run ((collectByToken (PageScript.turn failure) limit none).run.run ⟨pages, []⟩) =
        (.ok (issuesOrFailure TokenPage.issues failure followed rest),
          ⟨rest.tail, none :: followed.map TokenPage.nextToken⟩) := by
  obtain ⟨followed, rest, cut, ran⟩ := Paging.run_collect_turn Paging.byToken failure enough
  refine ⟨followed, rest, cut.congr fun page _ => ?_, ?_⟩
  · rw [ne_eq, Paging.goesOn_byToken_iff, not_not]
  · have judged : ∀ last ∈ rest.head?, ∃ ends, Paging.byToken.ends last = .ok ends :=
      fun last _ => ⟨_, rfl⟩
    rw [Paging.collectByToken_eq, ran, Paging.outcome_of_ok _ _ judged, scanl_advance_byToken,
      List.nil_append, Paging.byToken]

theorem collectByOffset_script (arithmetic : Arithmetic) {pages : List OffsetPage}
    (words : ∀ page ∈ pages, page.endAt < 2 ^ 64) (enough : pages.length < limit) :
    ∃ followed rest, CutAtEnd OffsetPage.Ends pages followed rest ∧
      Id.run ((collectByOffset arithmetic (PageScript.turn failure) limit 0).run.run ⟨pages, []⟩) =
        (.ok (issuesOrFailure OffsetPage.issues failure followed rest),
          ⟨rest.tail, (receivedBefore followed).map Nat.toUInt64⟩) := by
  have judged (page : OffsetPage) (member : page ∈ pages) :
      (Paging.byOffset arithmetic).ends page = .ok (decide page.Ends) :=
    OffsetPage.isLast_of_lt (words page member)
  obtain ⟨followed, rest, cut, ran⟩ :=
    Paging.run_collect_turn (Paging.byOffset arithmetic) failure enough
  refine ⟨followed, rest, cut.congr fun page member => ?_, ?_⟩
  · rw [judged page member, ok_decide_ne_false_iff]
  · have behind : ∀ last ∈ rest.head?, ∃ ends, (Paging.byOffset arithmetic).ends last = .ok ends :=
      fun last member =>
        ⟨_, judged last (cut.split ▸ List.mem_append_right _ (List.mem_of_mem_head? member))⟩
    have asked : followed.scanl (Paging.byOffset arithmetic).advance 0 = _ :=
      scanl_advance_byOffset arithmetic followed 0
    simp only [Nat.zero_add] at asked
    rw [Paging.collectByOffset_eq, ran, Paging.outcome_of_ok _ _ behind, asked, List.nil_append,
      Paging.byOffset]

end Scripts

namespace Exchange

/-- Whether all that was asked over a wire from one moment to another is allowed. -/
def Wire.AsksOnly (allowed : Request → Prop) (before after : Wire) : Prop :=
  ∃ later, after.events = before.events ++ later ∧
    ∀ request ∈ later.filterMap Event.request?, allowed request

section AsksOnly

variable {allowed : Request → Prop} {first second third : Wire}

theorem Wire.AsksOnly.trans (forth : Wire.AsksOnly allowed first second)
    (further : Wire.AsksOnly allowed second third) : Wire.AsksOnly allowed first third := by
  obtain ⟨earlier, written, permitted⟩ := forth
  obtain ⟨later, appended, alsoPermitted⟩ := further
  refine ⟨earlier ++ later, by rw [appended, written, List.append_assoc], ?_⟩
  rw [List.filterMap_append]
  exact List.forall_mem_append.mpr ⟨permitted, alsoPermitted⟩

theorem asksOnly_fetch {Resource : Type} {request : Request} (permitted : allowed request)
    (decode : Json.Source → Option Resource) (wire : Wire) :
    wire.AsksOnly allowed (Id.run ((fetch Wire.transport request decode).run wire)).2 := by
  have sent : Id.run ((send Wire.transport request).run wire) = _ :=
    run_sendWith request (Nat.le_refl retryLimit) wire
  -- Whatever comes of the request, decoding it asks for nothing more.
  have same : (Id.run ((fetch Wire.transport request decode).run wire)).2 =
      (Id.run ((send Wire.transport request).run wire)).2 := by
    cases replied : Id.run ((send Wire.transport request).run wire) with
    | mk outcome following =>
        cases outcome with
        | error cause => simp [fetch, replied]
        | ok body =>
            cases read : (Json.Source.ofText? body).bind decode <;> simp [fetch, replied, read]
  rw [same, sent]
  refine ⟨_, rfl, fun other asked => ?_⟩
  rw [requests_course] at asked
  exact List.eq_of_mem_replicate asked ▸ permitted

theorem asksOnly_collect {Start Page : Type} {paging : Paging Start Page}
    {fetch : Start → StateM Wire (Except ServiceError Page)}
    (permitted : ∀ (start : Start) (wire : Wire),
      wire.AsksOnly allowed (Id.run ((fetch start).run wire)).2)
    (limit : Nat) (start : Start) (wire : Wire) :
    wire.AsksOnly allowed (Id.run ((paging.collect fetch limit start).run.run wire)).2 := by
  induction limit generalizing start wire with
  | zero => exact ⟨[], by simp [Paging.collect]⟩
  | succ limit ih =>
      have here := permitted start wire
      cases answered : Id.run ((fetch start).run wire) with
      | mk reply following =>
          rw [answered] at here
          cases reply with
          | error cause =>
              rw [Paging.run_collect_of_error limit start answered]
              exact here
          | ok page =>
              rcases judged : paging.ends page with halt | last | last
              · rw [Paging.run_collect_of_halts limit start answered judged]
                exact here
              · have later := ih (paging.advance start page) following
                rw [Paging.run_collect_of_goesOn limit start answered judged rfl]
                exact here.trans later
              · rw [Paging.run_collect_of_ends limit start answered judged]
                exact here

end AsksOnly

end Exchange

/-- What a call searches for, in the language of the service, and the fields it asks for. -/
def Call.searched? : Call → Option (String × List String)
  | .issues filter fields => some (filter.text, fields)
  | .search text fields => some (text, fields)
  | _ => none

/-- What every page of a search is asked with: at most a hundred issues, and no fields unless
there are some to ask for. -/
def searchMembers (text : String) (fields : List String) : List (String × Json) :=
  [("jql", .string text), ("maxResults", .ofNat 100)] ++
    if fields = [] then [] else [("fields", .ofStrings fields)]

namespace Client

/-- The requests for the pages of a search. -/
inductive PageRequest (client : Client) (text : String) (fields : List String) : Request → Prop
  | byToken (isCloud : client.deployment = .cloud) (token : Option String) :
      PageRequest client text fields
        { client.request .post "/rest/api/3/search/jql" with
          body := some (.object (searchMembers text fields ++
            (token.map fun token => ("nextPageToken", Json.string token)).toList)) }
  | byOffset (isServer : client.deployment = .server) (offset : UInt64) :
      PageRequest client text fields
        { client.request .post "/rest/api/2/search" with
          body := some (.object (searchMembers text fields ++
            [("startAt", .ofNat offset.toNat)])) }

variable {client : Client} {text : String} {fields : List String}

theorem members_eq (text : String) (fields : List String) :
    Search.members { text, fields } = searchMembers text fields := by
  cases fields <;> rfl

theorem pageRequest_byToken (isCloud : client.deployment = .cloud) (token : Option String) :
    client.PageRequest text fields (client.tokenPageRequest { text, fields } token) := by
  rw [tokenPageRequest, Search.tokenBody, members_eq]
  exact .byToken isCloud token

theorem pageRequest_byOffset (isServer : client.deployment = .server) (offset : UInt64) :
    client.PageRequest text fields (client.offsetPageRequest { text, fields } offset) := by
  rw [offsetPageRequest, Search.offsetBody, members_eq]
  exact .byOffset isServer offset

theorem asksOnly_search (arithmetic : Arithmetic) (limit : Nat) (wire : Exchange.Wire) :
    wire.AsksOnly (client.PageRequest text fields)
      (Id.run ((client.search arithmetic Exchange.Wire.transport limit
        { text, fields }).run.run wire)).2 := by
  unfold Client.search
  split
  · rename_i isCloud
    rw [Paging.collectByToken_eq]
    exact Exchange.asksOnly_collect (fun token =>
      Exchange.asksOnly_fetch (pageRequest_byToken isCloud token) _) limit none wire
  · rename_i isServer
    rw [Paging.collectByOffset_eq]
    exact Exchange.asksOnly_collect (fun offset =>
      Exchange.asksOnly_fetch (pageRequest_byOffset isServer offset) _) limit 0 wire

theorem asksOnly_answer {call : Call} (searched : call.searched? = some (text, fields))
    (arithmetic : Arithmetic) (limit : Nat) (wire : Exchange.Wire) :
    wire.AsksOnly (client.PageRequest text fields)
      (Id.run ((client.answer arithmetic Exchange.Wire.transport limit call).run.run wire)).2 := by
  cases call with
  | issues filter asked =>
      cases searched
      exact asksOnly_search arithmetic limit wire
  | search query asked =>
      cases searched
      exact asksOnly_search arithmetic limit wire
  | _ => cases searched

end Client

/-- A search by token asks for the first page without a token and then for each page with the
token of the one in front; a search by offset asks from the number of issues received so far.
They stop at the first page that ends them, with all issues so far in order, or else at the
failure, which leaves none of them.  Of a client, all requests for pages are the same but for
the place where the page starts. -/
theorem pages_followed_in_turn (arithmetic : Arithmetic) :
    (∀ (failure : ServiceError) (pages : List TokenPage) (limit : Nat), pages.length < limit →
      ∃ followed rest, CutAtEnd TokenPage.Ends pages followed rest ∧
        Id.run ((collectByToken (PageScript.turn failure) limit none).run.run ⟨pages, []⟩) =
          (.ok (issuesOrFailure TokenPage.issues failure followed rest),
            ⟨rest.tail, none :: followed.map TokenPage.nextToken⟩)) ∧
    (∀ (failure : ServiceError) (pages : List OffsetPage) (limit : Nat),
      (∀ page ∈ pages, page.startAt.toNat + page.issues.length < 2 ^ 64) → pages.length < limit →
      ∃ followed rest, CutAtEnd OffsetPage.Ends pages followed rest ∧
        Id.run ((collectByOffset arithmetic (PageScript.turn failure) limit 0).run.run
            ⟨pages, []⟩) =
          (.ok (issuesOrFailure OffsetPage.issues failure followed rest),
            ⟨rest.tail, (receivedBefore followed).map Nat.toUInt64⟩) ∧
        (receivedBefore followed).Pairwise (· < ·) ∧
        ((followed.flatMap OffsetPage.issues).length < 2 ^ 64 →
          ((receivedBefore followed).map Nat.toUInt64).Pairwise (· < ·))) ∧
    ∀ (client : Client) (call : Call) (text : String) (fields : List String),
      call.searched? = some (text, fields) →
      ∀ (limit : Nat) (wire : Exchange.Wire), wire.AsksOnly (client.PageRequest text fields)
        (Id.run ((client.answer arithmetic Exchange.Wire.transport limit call).run.run
          wire)).2 := by
  refine ⟨fun failure pages limit enough => ?_, fun failure pages limit words enough => ?_,
    fun client call text fields searched => Client.asksOnly_answer searched arithmetic⟩
  · exact collectByToken_script failure enough
  · obtain ⟨followed, rest, cut, ran⟩ := collectByOffset_script failure arithmetic words enough
    have nonempty : ∀ page ∈ followed, page.issues ≠ [] := fun page member empty =>
      cut.goesOn page member (.inl empty)
    exact ⟨followed, rest, cut, ran, receivedBefore_ascends nonempty, offsets_ascend nonempty⟩

def noPage : ServiceError := .refused 400 ["no page"]

def issueOfKey (key : String) : Issue := { key }

/-- Pages that contradict themselves: the first does not say whether it is the last one, and the
second has a token although it is. -/
def contradictoryPages : List TokenPage :=
  [{ issues := [issueOfKey "A-1"], nextToken := some "t" },
    { issues := [issueOfKey "A-2"], nextToken := some "u", isLast := true }, {}]

/-- Pages whose total shrinks, and of which the last reaches it by what it says of its start. -/
def shrinkingPages : List OffsetPage :=
  [{ total := 9, issues := [issueOfKey "A-1", issueOfKey "A-2"] },
    { startAt := 2, total := 5, issues := [issueOfKey "A-3"] },
    { startAt := 18446744073709551614, total := 18446744073709551615,
      issues := [issueOfKey "A-4"] }]

theorem contradictory_and_shrinking_pages_followed :
    Id.run ((collectByToken (PageScript.turn noPage) 4 none).run.run ⟨contradictoryPages, []⟩) =
      (.ok (.ok [issueOfKey "A-1", issueOfKey "A-2"]), ⟨[{}], [none, some "t"]⟩) ∧
    Id.run ((collectByOffset .checked (PageScript.turn noPage) 4 0).run.run
        ⟨shrinkingPages, []⟩) =
      (.ok (.ok (["A-1", "A-2", "A-3", "A-4"].map issueOfKey)), ⟨[], [0, 2, 3]⟩) ∧
    Exchange.Wire.AsksOnly ((siteOf .cloud).PageRequest "" []) ⟨.const (.answer 503 ""), []⟩
      (Id.run (((siteOf .cloud).answer .checked Exchange.Wire.transport 1 (.search "" [])).run.run
        ⟨.const (.answer 503 ""), []⟩)).2 := by
  obtain ⟨byToken, byOffset, ofClients⟩ := pages_followed_in_turn .checked
  refine ⟨?_, ?_, ofClients (siteOf .cloud) (.search "" []) "" [] rfl 1 _⟩
  · obtain ⟨followed, rest, cut, ran⟩ := byToken noPage contradictoryPages 4 (by decide)
    obtain ⟨rfl, rfl⟩ := cut.unique
      (⟨rfl, by decide, by decide⟩ : CutAtEnd _ _ (contradictoryPages.take 1) _)
    exact ran
  · obtain ⟨followed, rest, cut, ran, -⟩ := byOffset noPage shrinkingPages 4 (by decide) (by decide)
    obtain ⟨rfl, rfl⟩ := cut.unique
      (⟨rfl, by decide, by decide⟩ : CutAtEnd _ _ (shrinkingPages.take 2) _)
    exact ran

/-- What a search by offset along a script comes to, and what it leaves of the script. -/
def searchedByOffset (arithmetic : Arithmetic) (failure : ServiceError) (limit : Nat)
    (pages : List OffsetPage) :
    Except Halt (Except ServiceError (List Issue)) × PageScript UInt64 OffsetPage :=
  Id.run ((collectByOffset arithmetic (PageScript.turn failure) limit 0).run.run ⟨pages, []⟩)

/-- The pages that were asked for, with their places in the script. -/
def AskedFor (pages : List OffsetPage) (asked : List UInt64) (index : Nat) (page : OffsetPage) :
    Prop :=
  pages[index]? = some page ∧ index < asked.length

/-- How a search by offset stops, told from the ends of the pages it has asked for.  An end that
is no word stops a program that checks its sums; otherwise it is taken for what it leaves beyond
the words. -/
structure StopsByEnds (arithmetic : Arithmetic) (pages : List OffsetPage)
    (outcome : Except Halt (Except ServiceError (List Issue))) (asked : List UInt64) : Prop where
  ofWord : ∀ index page, AskedFor pages asked index page → page.endAt < 2 ^ 64 →
    (asked.length = index + 1 ↔ page.Ends)
  overflows : arithmetic = .checked → ∀ index page, AskedFor pages asked index page →
    2 ^ 64 ≤ page.endAt → asked.length = index + 1 ∧ outcome = .error .overflow
  wraps : arithmetic = .wrapping → ∀ index page, AskedFor pages asked index page →
    2 ^ 64 ≤ page.endAt →
      (asked.length = index + 1 ↔ page.issues = [] ∨ page.total.toNat ≤ page.endAt % 2 ^ 64)
  halts : ∀ halt, outcome = .error halt → halt = .overflow ∧ arithmetic = .checked ∧
    ∃ index page, AskedFor pages asked index page ∧ 2 ^ 64 ≤ page.endAt

/-- How many pages are asked for is told by the first that does not go on. -/
theorem length_asked_eq_iff {arithmetic : Arithmetic} {pages followed rest : List OffsetPage}
    {asked : List UInt64} {index : Nat} {page : OffsetPage}
    (cut : CutAtEnd ((Paging.byOffset arithmetic).ends · ≠ .ok false) pages followed rest)
    (counted : asked.length = followed.length + 1) (turned : AskedFor pages asked index page) :
    asked.length = index + 1 ↔ page.isLast arithmetic ≠ .ok false := by
  obtain ⟨placed, before⟩ := turned
  rw [cut.split] at placed
  rcases Nat.lt_or_ge index followed.length with inFront | behind
  · rw [List.getElem?_append_left inFront] at placed
    exact iff_of_false (by omega) (cut.goesOn page (List.mem_of_getElem? placed))
  · have here : index = followed.length := by omega
    rw [List.getElem?_append_right behind, here, Nat.sub_self, ← List.head?_eq_getElem?] at placed
    exact iff_of_true (by omega) (cut.stops page placed)

theorem outcome_eq_error_iff {arithmetic : Arithmetic} {failure : ServiceError}
    {pages followed rest : List OffsetPage} {halt : Halt} (split : pages = followed ++ rest) :
    (Paging.byOffset arithmetic).outcome failure followed rest = .error halt ↔
      ∃ page, pages[followed.length]? = some page ∧ page.isLast arithmetic = .error halt := by
  have behind : pages[followed.length]? = rest.head? := by
    rw [split, List.getElem?_append_right (Nat.le_refl _), Nat.sub_self, List.head?_eq_getElem?]
  rw [behind]
  cases rest with
  | nil => simp [Paging.outcome]
  | cons last rest =>
      simp only [Paging.outcome, map_eq_error_iff, List.head?_cons, Option.some.injEq,
        exists_eq_left']
      rfl

/-- A search by offset stops behind a page that it has asked for exactly if the page is empty or
reaches the total, as long as the end of the page is a word. -/
theorem stops_where_total_is_reached (arithmetic : Arithmetic) (failure : ServiceError)
    (pages : List OffsetPage) (limit : Nat) (enough : pages.length < limit) :
    let searched := searchedByOffset arithmetic failure limit pages
    StopsByEnds arithmetic pages searched.1 searched.2.asked := by
  intro searched
  obtain ⟨followed, rest, cut, ran⟩ :=
    Paging.run_collect_turn (Paging.byOffset arithmetic) failure enough
  rw [← Paging.collectByOffset_eq] at ran
  have counted : searched.2.asked.length = followed.length + 1 := by
    rw [show searched = _ from ran]
    simp
  have halted (halt : Halt) : searched.1 = .error halt ↔
      ∃ page, pages[followed.length]? = some page ∧ page.isLast arithmetic = .error halt := by
    rw [show searched = _ from ran]
    exact outcome_eq_error_iff cut.split
  refine ⟨fun index page turned isWord => ?_, fun checked index page turned noWord => ?_,
    fun wrapping index page turned noWord => ?_, fun halt ended => ?_⟩
  · rw [length_asked_eq_iff cut counted turned, OffsetPage.isLast_of_lt isWord,
      ok_decide_ne_false_iff]
  · subst checked
    have overflows := OffsetPage.isLast_checked_of_le noWord
    have stopped : searched.2.asked.length = index + 1 := by
      rw [length_asked_eq_iff cut counted turned, overflows]
      simp
    refine ⟨stopped, (halted _).mpr ⟨page, ?_, overflows⟩⟩
    rw [← Nat.succ.inj (stopped.symm.trans counted)]
    exact turned.1
  · subst wrapping
    rw [length_asked_eq_iff cut counted turned, OffsetPage.isLast_wrapping,
      ok_decide_ne_false_iff]
  · obtain ⟨page, placed, halts⟩ := (halted halt).mp ended
    obtain ⟨isOverflow, checked, noWord⟩ := OffsetPage.eq_overflow_of_isLast halts
    exact ⟨isOverflow, checked, _, page, ⟨placed, by omega⟩, noWord⟩

/-- A page of one issue at the greatest offset there is. -/
def wrappingPage : OffsetPage where
  startAt := 18446744073709551615
  total := 5
  issues := [issueOfKey "A-1"]

def pageBehind : OffsetPage := { total := 1, issues := [issueOfKey "A-2"] }

def wrappingPageText : String :=
  "\x7b\"startAt\":18446744073709551615,\"total\":5,\"issues\":[\x7b\"key\":\"A-1\"\x7d]\x7d"

theorem last_page_stops :
    3 < 4 ∧ AskedFor shrinkingPages (searchedByOffset .checked noPage 4 shrinkingPages).2.asked 2
        shrinkingPages[2] ∧
      (searchedByOffset .checked noPage 4 shrinkingPages).2.asked.length = 3 := by
  have stops := stops_where_total_is_reached .checked noPage shrinkingPages 4 (by decide)
  have turned : AskedFor shrinkingPages
      (searchedByOffset .checked noPage 4 shrinkingPages).2.asked 2 shrinkingPages[2] :=
    ⟨rfl, by decide⟩
  exact ⟨by decide, turned, (stops.ofWord 2 _ turned (by decide)).mpr (by decide)⟩

section

open Json.Source

theorem ofText?_wrappingPageText :
    (Json.Source.ofText? wrappingPageText).bind OffsetPage.ofSource? = some wrappingPage := by
  have read : Json.Source.ofText? wrappingPageText = some (.object
      [(some "startAt", .number (.int 18446744073709551615)), (some "total", .number (.int 5)),
        (some "issues", .array [.object [(some "key", .string "A-1")]])]) := by
    simp [wrappingPageText, Json.Source.ofText?, readValue?, readMembers?, readItems?, readString?,
      readPieces?, joinPieces?, skipSpace, isSpace, readNumber?, readWhole?, readDigits?,
      readDecimals?, readExponent?, NumberLiteral.value?, Text.digitsValue, depthLimit]
  rw [read]
  rfl

end

/-- A page that can be read, and reaches the total, stops a program that checks its sums with
nothing, and does not stop the search of one that does not. -/
theorem page_beyond_words_misjudged :
    (Json.Source.ofText? wrappingPageText).bind OffsetPage.ofSource? = some wrappingPage ∧
      wrappingPage.endAt = 2 ^ 64 ∧ wrappingPage.Ends ∧
      searchedByOffset .checked noPage 3 [wrappingPage, pageBehind] =
        (.error .overflow, ⟨[pageBehind], [0]⟩) ∧
      searchedByOffset .wrapping noPage 3 [wrappingPage, pageBehind] =
        (.ok (.ok [issueOfKey "A-1", issueOfKey "A-2"]), ⟨[], [0, 1]⟩) :=
  ⟨ofText?_wrappingPageText, by decide, by decide, by rfl, by rfl⟩

end IssueQuery
