import IssueQuery.Proofs.Ascending
import IssueQuery.Service.Exchange
import Mathlib.Data.Stream.Init

namespace IssueQuery

/-! Asking again.

A request is repeated as long as the service is busy, but not more often than the
limit says.  What a service replies is a sequence without end here, of which as
much is used up as requests are sent.
-/

/-- Whether a reply turns a request away that may be answered later. -/
def Reply.IsBusy : Reply → Prop
  | .answer status _ => status = 429 ∨ 500 ≤ status
  | .broken _ => False
  | .unreachable _ => False
  | .unsendable _ => False

instance (reply : Reply) : Decidable reply.IsBusy :=
  match reply with
  | .answer status _ => inferInstanceAs (Decidable (status = 429 ∨ 500 ≤ status))
  | .broken _ => inferInstanceAs (Decidable False)
  | .unreachable _ => inferInstanceAs (Decidable False)
  | .unsendable _ => inferInstanceAs (Decidable False)

theorem ErrorBody.ascending_of_ofSource? {source : Json.Source} {told : ErrorBody}
    (read : ErrorBody.ofSource? source = some told) : Json.Ascending told.byField := by
  simp only [ErrorBody.ofSource?, Option.bind_eq_bind, Option.bind_eq_some_iff] at read
  obtain ⟨fields, -, general, -, byField, found, same⟩ := read
  cases same
  simp only [Json.Source.fieldD?] at found
  split at found
  · exact Json.Source.ascending_of_map? found
  · cases found
    exact .nil

namespace Exchange

section Verdicts

variable {request : Request} {reply : Reply} {status : Nat}

theorem judge_of_success (body : String) (successful : 200 ≤ status ∧ status < 300) :
    judge request (.answer status body) = .settled (.ok body) := by
  simp [judge, isSuccess, successful]

theorem judge_of_transient (body : String) (transient : status = 429 ∨ 500 ≤ status) :
    judge request (.answer status body) = .busy (errorOf status body request.path) := by
  have unsuccessful : isSuccess status = false := by
    simp only [isSuccess, Bool.and_eq_false_iff, decide_eq_false_iff_not]
    omega
  have repeated : isTransient status = true := by
    simpa [isTransient] using transient
  simp [judge, unsuccessful, repeated]

theorem judge_of_failure (body : String) (unsuccessful : ¬ (200 ≤ status ∧ status < 300))
    (lasting : ¬ (status = 429 ∨ 500 ≤ status)) :
    judge request (.answer status body) = .settled (.error (errorOf status body request.path)) := by
  have noSuccess : isSuccess status = false := by
    simpa [isSuccess] using unsuccessful
  have notRepeated : isTransient status = false := by
    simpa [isTransient] using lasting
  simp [judge, noSuccess, notRepeated]

theorem judge_of_busy (request : Request) (busy : reply.IsBusy) :
    ∃ cause, judge request reply = .busy cause := by
  cases reply with
  | answer status body => exact ⟨_, judge_of_transient body busy⟩
  | _ => exact busy.elim

theorem judge_of_not_busy (request : Request) (settled : ¬ reply.IsBusy) :
    ∃ result, judge request reply = .settled result := by
  cases reply with
  | answer status body =>
      by_cases successful : 200 ≤ status ∧ status < 300
      · exact ⟨_, judge_of_success body successful⟩
      · exact ⟨_, judge_of_failure body successful settled⟩
  | _ => exact ⟨_, rfl⟩

end Verdicts

/-- What an answer tells of a failure: the messages in its body, those on fields in
the order of the fields; or else the body itself, or else the status. -/
inductive Tells (status : Nat) (body : String) : List String → Prop
  | decoded {told : ErrorBody}
      (read : (Json.Source.ofText? body).bind ErrorBody.ofSource? = some told)
      (ordered : Json.Ascending told.byField)
      (something : told.general ≠ [] ∨ told.byField ≠ []) :
      Tells status body
        (told.general ++ told.byField.map fun (field, message) => field ++ ": " ++ message)
  | body
      (nothing : ∀ told, (Json.Source.ofText? body).bind ErrorBody.ofSource? = some told →
        told.general = [] ∧ told.byField = [])
      (shown : Text.trim body ≠ "") : Tells status body [Text.trim body]
  | status
      (nothing : ∀ told, (Json.Source.ofText? body).bind ErrorBody.ofSource? = some told →
        told.general = [] ∧ told.byField = [])
      (blank : Text.trim body = "") : Tells status body ["HTTP " ++ toString status]

/-- What comes of a request that is not repeated behind a reply. -/
inductive Settles (request : Request) : Reply → Except ServiceError String → Prop
  | succeeded {status : Nat} {body : String} (successful : 200 ≤ status ∧ status < 300) :
      Settles request (.answer status body) (.ok body)
  | missing {body : String} :
      Settles request (.answer 404 body) (.error (.notFound request.path))
  | refused {status : Nat} {body : String} {messages : List String}
      (unsuccessful : ¬ (200 ≤ status ∧ status < 300)) (present : status ≠ 404)
      (told : Tells status body messages) (nonempty : messages ≠ []) :
      Settles request (.answer status body) (.error (.refused status messages))
  | broken {detail : String} :
      Settles request (.broken detail) (.error (.transport detail))
  | unreachable {detail : String} :
      Settles request (.unreachable detail) (.error (.transport
        ("could not reach " ++ request.base ++ " (" ++ detail ++
          "); check the network connection or VPN")))
  | unsendable {fault : Request.Fault} :
      Settles request (.unsendable fault) (.error (.transport fault.message))

theorem tells_without_messages {status : Nat} {body : String}
    (nothing : ∀ told, (Json.Source.ofText? body).bind ErrorBody.ofSource? = some told →
      told.general = [] ∧ told.byField = []) :
    Tells status body [(Text.nonblank? body).getD ("HTTP " ++ toString status)] := by
  by_cases blank : Text.trim body = ""
  · have absent : Text.nonblank? body = none := if_pos blank
    rw [absent]
    exact .status nothing blank
  · have shown : Text.nonblank? body = some (Text.trim body) := if_neg blank
    rw [shown]
    exact .body nothing blank

theorem tells_messages (status : Nat) (body : String) :
    Tells status body (messages status body) := by
  cases read : (Json.Source.ofText? body).bind ErrorBody.ofSource? with
  | none =>
      rw [messages, read]
      exact tells_without_messages fun told found => by simp [read] at found
  | some told =>
      cases written : told.messages with
      | nil =>
          rw [messages, read, Option.map_some, written]
          refine tells_without_messages fun other found => ?_
          rw [read] at found
          cases found
          simpa [ErrorBody.messages] using written
      | cons first rest =>
          obtain ⟨source, -, decoded⟩ := Option.bind_eq_some_iff.mp read
          have same : messages status body = told.messages := by
            rw [messages, read, Option.map_some, written]
          rw [same]
          refine .decoded read (ErrorBody.ascending_of_ofSource? decoded) ?_
          by_contra empty
          simp_all [ErrorBody.messages]

theorem messages_ne_nil (status : Nat) (body : String) : messages status body ≠ [] := by
  unfold messages
  split <;> simp

theorem settles_judge (request : Request) (reply : Reply) :
    Settles request reply (judge request reply).result := by
  cases reply with
  | broken detail => exact .broken
  | unreachable detail => exact .unreachable
  | unsendable fault => exact .unsendable
  | answer status body =>
      by_cases successful : 200 ≤ status ∧ status < 300
      · rw [judge_of_success body successful]
        exact .succeeded successful
      · -- Busy or not, a reply that is the last one comes to the same error.
        have failed : (judge request (.answer status body)).result =
            .error (errorOf status body request.path) := by
          by_cases transient : status = 429 ∨ 500 ≤ status
          · rw [judge_of_transient body transient]
            rfl
          · rw [judge_of_failure body successful transient]
            rfl
        rw [failed]
        by_cases absent : status = 404
        · subst absent
          exact .missing
        · rw [errorOf, if_neg absent]
          exact .refused successful absent (tells_messages status body)
            (messages_ne_nil status body)

inductive Event where
  | exchanged (request : Request) (reply : Reply)
  | paused (seconds : Nat)

def Event.request? : Event → Option Request
  | .exchanged request _ => some request
  | .paused _ => none

/-- The replies that are still to come, whatever will be asked, and what has
happened so far. -/
structure Wire where
  coming : Stream' Reply
  events : List Event

namespace Wire

def sent (wire : Wire) (request : Request) : Wire :=
  ⟨wire.coming.tail, wire.events ++ [.exchanged request wire.coming.head]⟩

def paused (wire : Wire) (seconds : Nat) : Wire :=
  { wire with events := wire.events ++ [.paused seconds] }

def transport : Transport (StateM Wire) where
  exchange request := fun wire => (wire.coming.head, wire.sent request)
  pause seconds := modify (paused · seconds)

@[simp] theorem run_exchange (request : Request) (wire : Wire) :
    (transport.exchange request).run wire = pure (wire.coming.head, wire.sent request) := rfl

@[simp] theorem run_pause (seconds : Nat) (wire : Wire) :
    (transport.pause seconds).run wire = pure ((), wire.paused seconds) := rfl

end Wire

/-- How many replies in front are busy, of so many at most. -/
def busyInFront (limit : Nat) (replies : Stream' Reply) : Nat :=
  ((replies.take limit).takeWhile (·.IsBusy)).length

/-- A request that is sent once more behind each pause. -/
def course (request : Request) : Stream' Reply → (pauses : List Nat) → List Event
  | replies, [] => [.exchanged request replies.head]
  | replies, seconds :: later =>
      .exchanged request replies.head :: .paused seconds :: course request replies.tail later

/-- The pauses that are left when so many repetitions are. -/
def pausesLeft (retries : Nat) : List Nat :=
  (List.range' (retryLimit - retries) retries).map backoff

theorem requests_course (request : Request) (replies : Stream' Reply) (pauses : List Nat) :
    (course request replies pauses).filterMap Event.request? =
      List.replicate (pauses.length + 1) request := by
  induction pauses generalizing replies with
  | nil => rfl
  | cons seconds later ih =>
      have others := ih replies.tail
      simp only [course, List.filterMap_cons, Event.request?, others, List.length_cons,
        List.replicate_succ]

section Busy

variable {limit : Nat} {replies : Stream' Reply}

theorem busyInFront_of_busy (busy : replies.head.IsBusy) :
    busyInFront (limit + 1) replies = busyInFront limit replies.tail + 1 := by
  simp [busyInFront, Stream'.take_succ, busy]

theorem busyInFront_of_not_busy (settled : ¬ replies.head.IsBusy) :
    busyInFront (limit + 1) replies = 0 := by
  simp [busyInFront, Stream'.take_succ, settled]

theorem busyInFront_le (limit : Nat) (replies : Stream' Reply) :
    busyInFront limit replies ≤ limit := by
  have shorter := (List.takeWhile_sublist (l := replies.take limit)
    fun reply => decide reply.IsBusy).length_le
  rwa [Stream'.length_take] at shorter

theorem isBusy_of_mem_take {reply : Reply}
    (member : reply ∈ replies.take (busyInFront limit replies)) : reply.IsBusy := by
  induction limit generalizing replies with
  | zero => cases member
  | succ limit ih =>
      by_cases busy : replies.head.IsBusy
      · rw [busyInFront_of_busy busy, Stream'.take_succ] at member
        rcases List.mem_cons.mp member with rfl | later
        · exact busy
        · exact ih later
      · rw [busyInFront_of_not_busy busy] at member
        cases member

theorem pausesLeft_succ {retries : Nat} (within : retries + 1 ≤ retryLimit) :
    pausesLeft (retries + 1) = backoff (retryLimit - (retries + 1)) :: pausesLeft retries := by
  have next : retryLimit - (retries + 1) + 1 = retryLimit - retries := by omega
  rw [pausesLeft, List.range'_succ, List.map_cons, next, pausesLeft]

end Busy

section Steps

variable {request : Request} {wire : Wire} (retries : Nat)

theorem run_sendWith_of_not_busy (settled : ¬ wire.coming.head.IsBusy) :
    Id.run ((sendWith Wire.transport request retries).run wire) =
      ((judge request wire.coming.head).result, wire.sent request) := by
  obtain ⟨result, judged⟩ := judge_of_not_busy request settled
  cases retries with
  | zero => rfl
  | succ retries => simp [sendWith, judged, Verdict.result]

theorem run_sendWith_of_busy (busy : wire.coming.head.IsBusy) :
    Id.run ((sendWith Wire.transport request (retries + 1)).run wire) =
      Id.run ((sendWith Wire.transport request retries).run
        ((wire.sent request).paused (backoff (retryLimit - (retries + 1))))) := by
  obtain ⟨cause, judged⟩ := judge_of_busy request busy
  simp [sendWith, judged]

end Steps

/-- A request is sent again behind each reply that is busy, up to the limit, and what
comes of it is decided by the first that is not, or else by the last. -/
theorem run_sendWith (request : Request) {retries : Nat} (within : retries ≤ retryLimit)
    (wire : Wire) :
    Id.run ((sendWith Wire.transport request retries).run wire) =
      ((judge request (wire.coming.get (busyInFront retries wire.coming))).result,
        ⟨wire.coming.drop (busyInFront retries wire.coming + 1),
          wire.events ++ course request wire.coming
            ((pausesLeft retries).take (busyInFront retries wire.coming))⟩) := by
  -- On the repetitions that are left, with all that happened before in the wire.
  induction retries generalizing wire with
  | zero => rfl
  | succ retries ih =>
      by_cases busy : wire.coming.head.IsBusy
      · rw [run_sendWith_of_busy retries busy, ih (Nat.le_of_succ_le within),
          busyInFront_of_busy busy, pausesLeft_succ within, List.take_succ_cons, course]
        simp [Wire.sent, Wire.paused]
      · rw [run_sendWith_of_not_busy (retries + 1) busy, busyInFront_of_not_busy busy]
        rfl

/-- A request is sent as often as its answer asks for: once, and once more behind
each busy reply in front, up to three times.  The pauses are of one, two and four
seconds, the requests are all the same, and what comes of them is decided by the last
reply alone.  No other reply is followed by a further request. -/
theorem send_follows_policy (request : Request) (replies : Stream' Reply) (before : List Event) :
    ∃ result,
      Id.run ((send Wire.transport request).run ⟨replies, before⟩) =
        (result, ⟨replies.drop (busyInFront 3 replies + 1),
          before ++ course request replies ([1, 2, 4].take (busyInFront 3 replies))⟩) ∧
      (course request replies ([1, 2, 4].take (busyInFront 3 replies))).filterMap Event.request? =
        List.replicate (busyInFront 3 replies + 1) request ∧
      (∀ reply ∈ replies.take (busyInFront 3 replies), reply.IsBusy) ∧
      Settles request (replies.get (busyInFront 3 replies)) result := by
  have ran := run_sendWith request (Nat.le_refl retryLimit) ⟨replies, before⟩
  have all : ([1, 2, 4].take (busyInFront 3 replies)).length = busyInFront 3 replies :=
    List.length_take_of_le (busyInFront_le 3 replies)
  refine ⟨_, ran, ?_, fun reply member => isBusy_of_mem_take member, settles_judge _ _⟩
  rw [requests_course, all]

/-- A request that is turned away twice, for different reasons, and leads nowhere. -/
example (request : Request) (later : Stream' Reply) :
    Id.run ((send Wire.transport request).run
        ⟨.cons (.answer 429 "") (.cons (.answer 503 "") (.cons (.answer 404 "") later)), []⟩) =
      (.error (.notFound request.path), ⟨later,
        [.exchanged request (.answer 429 ""), .paused 1, .exchanged request (.answer 503 ""),
          .paused 2, .exchanged request (.answer 404 "")]⟩) := rfl

end Exchange

end IssueQuery
