import IssueQuery.Proofs.Outcome
import IssueQuery.Proofs.PageLoop
import IssueQuery.Proofs.Retries
import IssueQuery.Proofs.Transcript
import IssueQuery.Service.Client

namespace IssueQuery

/-! Whole results from pages.

A service is a system with states: it answers a request in one state and is in
another one afterwards.  What is said of services here speaks of their replies
only; how they come by them is left open.
-/

variable {State : Type}

/-- The service turns the request away at most so many times, and then answers it
with a body that is as it should be. -/
inductive AnswersWithin (transport : Transport (StateM State)) (request : Request)
    (good : String → State → Prop) : Nat → State → Prop
  | answered {busy status : Nat} {body : String} {state following : State}
      (replied : Id.run ((transport.exchange request).run state) =
        (.answer status body, following))
      (successful : 200 ≤ status ∧ status < 300) (holds : good body following) :
      AnswersWithin transport request good busy state
  | turnedAway {busy status : Nat} {body : String} {state following : State}
      (replied : Id.run ((transport.exchange request).run state) =
        (.answer status body, following))
      (transient : status = 429 ∨ 500 ≤ status)
      (later : ∀ seconds, AnswersWithin transport request good busy
        (Id.run ((transport.pause seconds).run following)).2) :
      AnswersWithin transport request good (busy + 1) state

/-- The service answers the request with a resource that is as it should be, after
it turned it away three times at most. -/
def Answers {Resource : Type} (transport : Transport (StateM State)) (request : Request)
    (decode : Json.Source → Option Resource) (good : Resource → State → Prop) (state : State) :
    Prop :=
  AnswersWithin transport request
    (fun body following =>
      ∃ resource, (Json.Source.ofText? body).bind decode = some resource ∧ good resource following)
    3 state

namespace Exchange

variable {transport : Transport (StateM State)} {request : Request}

/-- Repeating a request as often as it is turned away brings the answer. -/
theorem sendWith_of_answersWithin {good : String → State → Prop} {busy retries : Nat}
    {state : State} (answers : AnswersWithin transport request good busy state)
    (enough : busy ≤ retries) :
    ∃ body following,
      Id.run ((sendWith transport request retries).run state) = (.ok body, following) ∧
        good body following := by
  induction answers generalizing retries with
  | @answered busy status body state following replied successful holds =>
      refine ⟨body, following, ?_, holds⟩
      cases retries <;>
        simp [sendWith, replied, judge_of_success body successful, Verdict.result]
  | @turnedAway busy status body state following replied transient later ih =>
      cases retries with
      | zero => omega
      | succ retries =>
          obtain ⟨found, final, ran, holds⟩ :=
            ih (backoff (retryLimit - (retries + 1))) (Nat.le_of_succ_le_succ enough)
          refine ⟨found, final, ?_, holds⟩
          simpa [sendWith, replied, judge_of_transient body transient] using ran

theorem fetch_of_answers {Resource : Type} {decode : Json.Source → Option Resource}
    {good : Resource → State → Prop} {state : State}
    (answers : Answers transport request decode good state) :
    ∃ resource following,
      Id.run ((fetch transport request decode).run state) = (.ok resource, following) ∧
        good resource following := by
  have enough : 3 ≤ retryLimit := Nat.le_refl 3
  obtain ⟨body, following, sent, resource, decoded, holds⟩ :=
    sendWith_of_answersWithin answers enough
  refine ⟨resource, following, ?_, holds⟩
  simp [fetch, send, sent, decoded]

end Exchange

/-- A service that gives the issues in these pages, of which each but the last
names its successor by a token.  The token leads to the first page. -/
def ServesByToken (transport : Transport (StateM State)) (client : Client) (search : Search) :
    (pages : List (List Issue)) → (token : Option String) → State → Prop
  | [], _, _ => False
  | [issues], token, state =>
      Answers transport (client.tokenPageRequest search token) TokenPage.ofSource?
        (fun page _ => page.issues = issues ∧ (page.isLast = true ∨ page.nextToken = none)) state
  | issues :: second :: rest, token, state =>
      Answers transport (client.tokenPageRequest search token) TokenPage.ofSource?
        (fun page following => page.issues = issues ∧ page.isLast = false ∧
          ∃ next, next ≠ "" ∧ page.nextToken = some next ∧
            ServesByToken transport client search (second :: rest) (some next) following) state

theorem collectByToken_of_serves {transport : Transport (StateM State)} {client : Client}
    {search : Search} {pages : List (List Issue)} {limit : Nat} {token : Option String}
    {state : State} (serves : ServesByToken transport client search pages token state)
    (enough : pages.length ≤ limit) :
    ∃ final, Id.run ((collectByToken (fun token => Exchange.fetch transport
      (client.tokenPageRequest search token) TokenPage.ofSource?) limit token).run.run state) =
        (.ok (.ok pages.flatten), final) := by
  simp only [Paging.collectByToken_eq]
  induction pages generalizing limit token state with
  | nil => exact serves.elim
  | cons issues rest ih =>
      cases limit with
      | zero => simp at enough
      | succ limit =>
          cases rest with
          | nil =>
              obtain ⟨page, following, fetched, rfl, last⟩ := Exchange.fetch_of_answers serves
              have ends : page.Ends := last.imp_right .inl
              refine ⟨following, ?_⟩
              rw [List.flatten_singleton]
              exact Paging.run_collect_of_ends limit token fetched
                (Paging.ends_byToken_iff.mpr ends)
          | cons second rest =>
              obtain ⟨page, following, fetched, rfl, more, next, nonempty, named, others⟩ :=
                Exchange.fetch_of_answers serves
              have goesOn : ¬ page.Ends := by simp [TokenPage.Ends, more, named, nonempty]
              obtain ⟨final, ran⟩ := ih others (Nat.le_of_succ_le_succ enough)
              rw [← named] at ran
              exact ⟨final, Paging.run_collect_of_goesOn limit token fetched
                (Paging.goesOn_byToken_iff.mpr goesOn) ran⟩

/-- A page that fits an offset: it tells the number of issues, and gives some of
those from the offset on, unless none are left.  It may say that it starts before
the offset. -/
structure OffsetPage.Fits (issues : List Issue) (offset : UInt64) (page : OffsetPage) : Prop where
  total : page.total.toNat = issues.length
  startAt : page.startAt ≤ offset
  run : page.issues <+: issues.drop offset.toNat
  progress : offset.toNat < issues.length → page.issues ≠ []

/-- A service that, whenever it is ready, answers a request for any offset with a
page that fits, and is ready again. -/
def ServesByOffset (transport : Transport (StateM State)) (client : Client) (search : Search)
    (issues : List Issue) (Ready : State → Prop) : Prop :=
  ∀ state offset, Ready state →
    Answers transport (client.offsetPageRequest search offset) OffsetPage.ofSource?
      (fun page following => page.Fits issues offset ∧ Ready following) state

theorem OffsetPage.issues_ne_nil_of_isLast {arithmetic : Arithmetic} {page : OffsetPage}
    (more : page.isLast arithmetic = .ok false) : page.issues ≠ [] := by
  obtain ⟨finish, -, stays⟩ := bind_eq_ok_iff.mp more
  simp only [pure, Except.pure, Except.ok.injEq, Bool.or_eq_false_iff,
    List.isEmpty_eq_false_iff] at stays
  exact stays.2

namespace OffsetPage.Fits

variable {issues : List Issue} {offset : UInt64} {page : OffsetPage}

theorem length_le (fits : page.Fits issues offset) :
    page.issues.length ≤ issues.length - offset.toNat := by
  simpa using fits.run.length_le

/-- A page that fits lies within the total, unless it is empty. -/
theorem endAt_lt (fits : page.Fits issues offset) : page.endAt < 2 ^ 64 := by
  have total := fits.total
  have bound := page.total.toNat_lt
  have startAt := UInt64.le_iff_toNat_le.mp fits.startAt
  have offsetBound := offset.toNat_lt
  have shorter := fits.length_le
  rw [endAt]
  omega

theorem issues_of_ends (fits : page.Fits issues offset) (ends : page.Ends) :
    page.issues = issues.drop offset.toNat := by
  rcases ends with empty | reached
  · have none_left : issues.length ≤ offset.toNat :=
      Nat.le_of_not_lt fun left => fits.progress left empty
    rw [empty, List.drop_eq_nil_of_le none_left]
  · have total := fits.total
    have startAt := UInt64.le_iff_toNat_le.mp fits.startAt
    refine fits.run.eq_of_length_le ?_
    rw [endAt] at reached
    rw [List.length_drop]
    omega

theorem toNat_next (fits : page.Fits issues offset) (more : ¬ page.Ends) :
    (offset + page.issues.length.toUInt64).toNat = offset.toNat + page.issues.length := by
  have positive := List.length_pos_iff.mpr (mt Or.inl more)
  have total := fits.total
  have bound := page.total.toNat_lt
  have shorter := fits.length_le
  -- A page that gives something lies within the total, which is a word.
  have isWord : offset.toNat + page.issues.length < 2 ^ 64 := by omega
  rw [UInt64.toNat_add_toUInt64, Nat.mod_eq_of_lt isWord]

theorem append_drop (fits : page.Fits issues offset) :
    page.issues ++ issues.drop (offset.toNat + page.issues.length) = issues.drop offset.toNat := by
  rw [← List.drop_drop]
  exact List.prefix_iff_eq_append.mp fits.run

end OffsetPage.Fits

theorem collectByOffset_of_serves {transport : Transport (StateM State)} {client : Client}
    {search : Search} {issues : List Issue} {Ready : State → Prop} (arithmetic : Arithmetic)
    (serves : ServesByOffset transport client search issues Ready) {limit : Nat} {offset : UInt64}
    {state : State} (ready : Ready state) (enough : issues.length - offset.toNat < limit) :
    ∃ final, Id.run ((collectByOffset arithmetic (fun offset => Exchange.fetch transport
      (client.offsetPageRequest search offset) OffsetPage.ofSource?) limit offset).run.run state) =
        (.ok (.ok (issues.drop offset.toNat)), final) := by
  simp only [Paging.collectByOffset_eq]
  induction limit generalizing offset state with
  | zero => omega
  | succ limit ih =>
      obtain ⟨page, following, fetched, fits, ready⟩ :=
        Exchange.fetch_of_answers (serves state offset ready)
      have judged : page.isLast arithmetic = .ok (decide page.Ends) :=
        OffsetPage.isLast_of_lt fits.endAt_lt
      by_cases ends : page.Ends
      · rw [decide_eq_true ends] at judged
        rw [← fits.issues_of_ends ends]
        exact ⟨following, Paging.run_collect_of_ends limit offset fetched judged⟩
      · rw [decide_eq_false ends] at judged
        have advanced := fits.toNat_next ends
        have shorter := fits.length_le
        have positive := List.length_pos_iff.mpr (mt Or.inl ends)
        have closer :
            issues.length - (offset + page.issues.length.toUInt64).toNat < limit := by omega
        obtain ⟨final, ran⟩ := ih ready closer
        rw [← fits.append_drop, ← advanced]
        exact ⟨final, Paging.run_collect_of_goesOn limit offset fetched judged ran⟩

/-- What came with a page that was asked for. -/
def issuesReceived : (_ : UInt64) × Except ServiceError OffsetPage → List Issue
  | ⟨_, .ok page⟩ => page.issues
  | ⟨_, .error _⟩ => []

/-- Whether requests brought what a search comes to, if it comes to issues, and at most one of
them brought nothing. -/
structure Bring (requests : Transcript fun _ : UInt64 => Except ServiceError OffsetPage)
    (outcome : Except Halt (Except ServiceError (List Issue))) : Prop where
  few : requests.length ≤ requests.countP (fun request => issuesReceived request ≠ []) + 1
  whole : ∀ issues, outcome = .ok (.ok issues) →
    requests ≠ [] ∧ requests.flatMap issuesReceived = issues

namespace Bring

variable {outcome : Except Halt (Except ServiceError (List Issue))}

theorem single {request : (_ : UInt64) × Except ServiceError OffsetPage}
    (same : ∀ issues, outcome = .ok (.ok issues) → issuesReceived request = issues) :
    Bring [request] outcome where
  few := Nat.le_add_left _ _
  whole issues succeeded :=
    ⟨List.cons_ne_nil _ _, (List.flatMap_singleton _ _).trans (same issues succeeded)⟩

theorem cons {requests : Transcript fun _ : UInt64 => Except ServiceError OffsetPage}
    (bring : Bring requests outcome) (offset : UInt64) {page : OffsetPage}
    (gives : page.issues ≠ []) :
    Bring (⟨offset, .ok page⟩ :: requests) (outcome.map (Except.map (page.issues ++ ·))) where
  few := by
    have brought : issuesReceived ⟨offset, .ok page⟩ ≠ [] := gives
    rw [List.countP_cons, if_pos (decide_eq_true brought)]
    exact Nat.succ_le_succ bring.few
  whole issues succeeded := by
    refine ⟨List.cons_ne_nil _ _, ?_⟩
    rcases outcome with halt | cause | found
    · cases succeeded
    · cases succeeded
    · cases succeeded
      rw [List.flatMap_cons, (bring.whole found rfl).2]
      rfl

end Bring

/-- Writing down what a search by offset asks for does not change it. -/
theorem collectByOffset_transcribed {arithmetic : Arithmetic}
    {fetch : UInt64 → StateM State (Except ServiceError OffsetPage)} {limit : Nat}
    {offset : UInt64} {state final : State}
    {outcome : Except Halt (Except ServiceError (List Issue))}
    (ran : Id.run ((collectByOffset arithmetic fetch limit offset).run.run state) =
      (outcome, final))
    (before : Transcript fun _ : UInt64 => Except ServiceError OffsetPage) :
    ∃ requests,
      Id.run (((collectByOffset arithmetic (transcribed fetch) limit offset).run.run before).run
        state) = ((outcome, before ++ requests), final) ∧
      Bring requests outcome := by
  rw [Paging.collectByOffset_eq] at ran ⊢
  induction limit generalizing offset before state outcome final with
  | zero =>
      cases ran
      exact ⟨[], by simp [Paging.collect], Nat.zero_le _, by rintro issues ⟨⟩⟩
  | succ limit ih =>
      cases answered : Id.run ((fetch offset).run state) with
      | mk reply following =>
          rw [Paging.run_collect_succ]
          rcases reply with cause | page
          · rw [Paging.run_collect_of_error limit offset answered] at ran
            cases ran
            exact ⟨[⟨offset, .error cause⟩], by simp [transcribed, answered],
              .single (by rintro issues ⟨⟩)⟩
          · rcases ends : (Paging.byOffset arithmetic).ends page with halt | goesOn | last
            · rw [Paging.run_collect_of_halts limit offset answered ends] at ran
              cases ran
              exact ⟨[⟨offset, .ok page⟩], by simp [transcribed, answered, ends],
                .single (by rintro issues ⟨⟩)⟩
            · cases rest : Id.run (((Paging.byOffset arithmetic).collect fetch limit
                  ((Paging.byOffset arithmetic).advance offset page)).run.run following) with
              | mk others after =>
                  rw [Paging.run_collect_of_goesOn limit offset answered ends rest] at ran
                  cases ran
                  obtain ⟨requests, written, bring⟩ := ih rest (before ++ [⟨offset, .ok page⟩])
                  exact ⟨⟨offset, .ok page⟩ :: requests,
                    by simp [transcribed, answered, ends, written],
                    bring.cons offset (OffsetPage.issues_ne_nil_of_isLast ends)⟩
            · rw [Paging.run_collect_of_ends limit offset answered ends] at ran
              cases ran
              exact ⟨[⟨offset, .ok page⟩], by simp [transcribed, answered, ends],
                .single fun _ succeeded => Except.ok.inj (Except.ok.inj succeeded)⟩

theorem length_requests_of_empty
    {requests : Transcript fun _ : UInt64 => Except ServiceError OffsetPage}
    (nonempty : requests ≠ []) (nothing : requests.flatMap issuesReceived = [])
    (few : requests.length ≤ requests.countP (fun request => issuesReceived request ≠ []) + 1) :
    requests.length = 1 := by
  have none_gives : requests.countP (fun request => issuesReceived request ≠ []) = 0 := by
    rw [List.countP_eq_zero]
    intro request asked
    simpa using List.flatMap_eq_nil_iff.mp nothing request asked
  have positive := List.length_pos_iff.mpr nonempty
  omega

/-- A search brings the whole result in order, from a service that gives it in
pages by token as well as from one that gives it in pages by offset, although the
service may turn each request away three times before it answers.  By offset, at
most one request for a page brings nothing.  How a program adds up makes no
difference to that. -/
theorem Client.search_returns_whole_result (arithmetic : Arithmetic) (issues : List Issue)
    (search : Search) :
    (∀ {State : Type} (transport : Transport (StateM State)) (client : Client)
        (pages : List (List Issue)) (state : State),
      client.deployment = .cloud → pages.flatten = issues →
      ServesByToken transport client search pages none state →
      ∀ limit, pages.length ≤ limit →
        (Id.run ((client.search arithmetic transport limit search).run.run state)).1 =
          .ok (.ok issues)) ∧
    ∀ {State : Type} (transport : Transport (StateM State)) (client : Client)
        (Ready : State → Prop) (state : State),
      client.deployment = .server → ServesByOffset transport client search issues Ready →
      Ready state →
      ∀ limit, issues.length < limit →
        ∃ requests final,
          Id.run ((client.search arithmetic transport limit search).run.run state) =
            (.ok (.ok issues), final) ∧
          Id.run (((collectByOffset arithmetic (transcribed fun offset => Exchange.fetch transport
            (client.offsetPageRequest search offset) OffsetPage.ofSource?) limit 0).run.run []).run
              state) = ((.ok (.ok issues), requests), final) ∧
          requests.length ≤ requests.countP (fun request => issuesReceived request ≠ []) + 1 ∧
          (issues = [] → requests.length = 1) := by
  constructor
  · intro State transport client pages state isCloud cut serves limit enough
    obtain ⟨final, ran⟩ := collectByToken_of_serves serves enough
    simp only [Client.search, isCloud, ran, cut]
  · intro State transport client Ready state isServer serves ready limit enough
    have start : issues.drop (0 : UInt64).toNat = issues := rfl
    have within : issues.length - (0 : UInt64).toNat < limit := enough
    obtain ⟨final, ran⟩ := collectByOffset_of_serves arithmetic serves ready within
    rw [start] at ran
    obtain ⟨requests, written, bring⟩ := collectByOffset_transcribed ran []
    refine ⟨requests, final, ?_, written, bring.few, ?_⟩
    · simpa only [Client.search, isServer] using ran
    · intro empty
      obtain ⟨nonempty, same⟩ := bring.whole _ rfl
      exact length_requests_of_empty nonempty (same.trans empty) bring.few

/-- A service that turns every request away three times.  Its state is how often
it still does so. -/
def busySite (answer : Request → String) : Transport (StateM Nat) where
  exchange request := fun
    | 0 => (.answer 200 (answer request), 3)
    | busy + 1 => (.answer 503 "", busy)
  pause _ := pure ()

theorem answersWithin_busySite {answer : Request → String} {request : Request}
    {good : String → Nat → Prop} (holds : good (answer request) 3) (busy : Nat) :
    AnswersWithin (busySite answer) request good busy busy := by
  induction busy with
  | zero => exact .answered rfl (by decide) holds
  | succ busy ih => exact .turnedAway rfl (by decide) fun _ => ih

def siteOf (deployment : Deployment) : Client :=
  ⟨"https://issues.example", "Bearer secret", deployment, 30⟩

def everything : Search := { text := "", fields := [] }

def twoIssues : List Issue := [{ key := "A-1" }, { key := "A-2" }]

/-- Three pages, of which the second is empty. -/
def tokenPage : Option String → TokenPage
  | none => { issues := [{ key := "A-1" }], nextToken := some "t1" }
  | some "t1" => { issues := [], nextToken := some "t2" }
  | some _ => { issues := [{ key := "A-2" }], isLast := true }

def tokenPageText : Option String → String
  | none => "\x7b\"issues\":[\x7b\"key\":\"A-1\"\x7d],\"nextPageToken\":\"t1\"\x7d"
  | some "t1" => "\x7b\"issues\":[],\"nextPageToken\":\"t2\",\"isLast\":false\x7d"
  | some _ => "\x7b\"issues\":[\x7b\"key\":\"A-2\"\x7d],\"isLast\":true\x7d"

def tokenPages (request : Request) : String :=
  tokenPageText ((request.body.bind (Json.get? · "nextPageToken")).bind Json.string?)

theorem tokenPages_tokenPageRequest (token : Option String) :
    tokenPages ((siteOf .cloud).tokenPageRequest everything token) = tokenPageText token := by
  cases token <;>
    simp [tokenPages, everything, Client.tokenPageRequest, Search.tokenBody, Search.members,
      Json.get?, Json.lookup_cons_if, Json.string?]

section

open Json.Source

theorem ofText?_tokenPageText (token : Option String) :
    (Json.Source.ofText? (tokenPageText token)).bind TokenPage.ofSource? =
      some (tokenPage token) := by
  unfold tokenPageText tokenPage
  split <;>
    simp [Json.Source.ofText?, readValue?, readMembers?, readItems?, readString?, dropWord?,
      readPieces?, joinPieces?, skipSpace, isSpace, depthLimit] <;>
    rfl

end

theorem answers_busySite {Resource : Type} {answer : Request → String} {request : Request}
    {decode : Json.Source → Option Resource} {good : Resource → Nat → Prop} {text : String}
    {resource : Resource} (answered : answer request = text)
    (read : (Json.Source.ofText? text).bind decode = some resource) (holds : good resource 3) :
    Answers (busySite answer) request decode good 3 := by
  refine answersWithin_busySite ⟨resource, ?_, holds⟩ 3
  rw [answered, read]

theorem answers_tokenPages {good : TokenPage → Nat → Prop} (token : Option String)
    (holds : good (tokenPage token) 3) :
    Answers (busySite tokenPages) ((siteOf .cloud).tokenPageRequest everything token)
      TokenPage.ofSource? good 3 :=
  answers_busySite (tokenPages_tokenPageRequest token) (ofText?_tokenPageText token) holds

theorem servesByToken_busySite :
    ServesByToken (busySite tokenPages) (siteOf .cloud) everything
      [[{ key := "A-1" }], [], [{ key := "A-2" }]] none 3 := by
  refine answers_tokenPages none ⟨rfl, rfl, "t1", by decide, rfl, ?_⟩
  refine answers_tokenPages (some "t1") ⟨rfl, rfl, "t2", by decide, rfl, ?_⟩
  exact answers_tokenPages (some "t2") ⟨rfl, .inl rfl⟩

/-- Pages of one issue, which do not say where they start. -/
def offsetPage (position : Nat) : OffsetPage where
  total := 2
  issues := (twoIssues.drop position).take 1

def offsetPageText : Nat → String
  | 0 => "\x7b\"total\":2,\"issues\":[\x7b\"key\":\"A-1\"\x7d]\x7d"
  | 1 => "\x7b\"total\":2,\"issues\":[\x7b\"key\":\"A-2\"\x7d]\x7d"
  | _ => "\x7b\"total\":2\x7d"

section

open Json.Source

theorem ofText?_offsetPageText (position : Nat) :
    (Json.Source.ofText? (offsetPageText position)).bind OffsetPage.ofSource? =
      some (offsetPage position) := by
  have read : Json.Source.ofText? (offsetPageText position) = some (.object
      ((some "total", .number (.int 2)) ::
        match position with
        | 0 => [(some "issues", .array [.object [(some "key", .string "A-1")]])]
        | 1 => [(some "issues", .array [.object [(some "key", .string "A-2")]])]
        | _ => [])) := by
    rcases position with _ | _ | position <;>
      simp [offsetPageText, Json.Source.ofText?, readValue?, readMembers?, readItems?, readString?,
        readPieces?, joinPieces?, skipSpace, isSpace, readNumber?, readWhole?, readDigits?,
        readDecimals?, readExponent?, NumberLiteral.value?, Text.digitsValue, depthLimit]
  rw [read]
  rcases position with _ | _ | position
  · rfl
  · rfl
  · have behind : offsetPage (position + 2) = { total := 2 } := by simp [offsetPage, twoIssues]
    rw [behind]
    rfl

end

theorem fits_offsetPage (offset : UInt64) :
    (offsetPage offset.toNat).Fits twoIssues offset where
  total := rfl
  startAt := UInt64.le_iff_toNat_le.mpr (Nat.zero_le _)
  run := List.take_prefix 1 _
  progress := by
    intro left
    simp [offsetPage, left]

def offsetPages (request : Request) : String :=
  offsetPageText (((request.body.bind (Json.get? · "startAt")).bind Json.int?).getD 0).toNat

theorem servesByOffset_busySite :
    ServesByOffset (busySite offsetPages) (siteOf .server) everything twoIssues (· = 3) := by
  rintro _ offset rfl
  have answered : offsetPages ((siteOf .server).offsetPageRequest everything offset) =
      offsetPageText offset.toNat := by
    simp [offsetPages, everything, Client.offsetPageRequest, Search.offsetBody, Search.members,
      Json.get?, Json.lookup_cons_if, Json.ofNat, Json.int?]
  exact answers_busySite answered (ofText?_offsetPageText _) ⟨fits_offsetPage offset, rfl⟩

/-- Both services are searched to the end. -/
theorem Client.busy_sites_searched :
    (Id.run (((siteOf .cloud).search .checked (busySite tokenPages) 3 everything).run.run 3)).1 =
      .ok (.ok twoIssues) ∧
    (Id.run (((siteOf .server).search .checked (busySite offsetPages) 3 everything).run.run 3)).1 =
      .ok (.ok twoIssues) := by
  obtain ⟨byToken, byOffset⟩ := search_returns_whole_result .checked twoIssues everything
  constructor
  · exact byToken (busySite tokenPages) (siteOf .cloud) _ 3 rfl rfl servesByToken_busySite 3
      (Nat.le_refl 3)
  · obtain ⟨requests, final, searched, -⟩ := byOffset (busySite offsetPages) (siteOf .server)
      (· = 3) 3 rfl servesByOffset_busySite rfl 3 (Nat.lt_succ_self 2)
    rw [searched]

end IssueQuery
