import BucketOperator.Proofs.Azure.Addressing
import BucketOperator.Proofs.Azure.Changing
import BucketOperator.Proofs.Azure.Reading
import BucketOperator.Proofs.Retry.Rounds

/-!
# Repeating requests

A request that is sent with a token is repeated as it is while its answers are throttled and the
backoff of requests yields another interval. Its last answer is reported. The polls of an operation
are repeated while they tell that it goes on and the backoff of polls yields another interval. Each
poll is a request of its own, with a fresh backoff.
-/

namespace BucketOperator.Azure

open Program (yields_map_iff map_after_cut_iff)
open Retry (Ending Persists Collapses)

/-! ### The law of requests -/

/-- What an attempt asks, and what comes of it. A token that is no header value cannot be sent. -/
inductive Attempted (request : Http.Request) (bearer : String) :
    Trace World → Except Failure Http.Response → Prop where
  | answered (hbearer : IsSendable bearer) (response : Http.Response) :
      Attempted request bearer [⟨.http (bearing request bearer), some response⟩] (.ok response)
  | lost (hbearer : IsSendable bearer) :
      Attempted request bearer [⟨.http (bearing request bearer), none⟩] (.error .transport)
  | unsent (hbearer : ¬ IsSendable bearer) : Attempted request bearer [] (.error .transport)

/-- Whether an attempt was answered with a status that is worth another attempt. -/
def IsThrottled (outcome : Except Failure Http.Response) : Prop :=
  ∃ response, outcome = .ok response ∧ response.status ∈ [429, 500, 502, 503, 504]

/-- What is reported of the last attempt: its failure, its success, or the status, the code and the
message of its answer. -/
inductive Reports : Except Failure Http.Response → Except Failure Http.Response → Prop where
  | lost (failure : Failure) : Reports (.error failure) (.error failure)
  | granted {response : Http.Response} (h : 200 ≤ response.status ∧ response.status < 300) :
      Reports (.ok response) (.ok response)
  | refused {response : Http.Response} (h : ¬ (200 ≤ response.status ∧ response.status < 300)) :
      Reports (.ok response) (.error (.status response.status (errorDetail response.body).code
        (errorDetail response.body).message))

/-- A request is attempted with a token until an attempt is not throttled or the backoff is spent,
and the last attempt is reported. -/
def Client.Delivers (client : Client) (request : Http.Request) (bearer : String) (t : Trace World)
    (r : Except Failure Http.Response) : Prop :=
  ∃ ending, Persists (Attempted request bearer) IsThrottled client.retries client.patience t
    ending ∧ Reports ending.outcome r

/-- A request is sent with the token of the client. If there is none yet, one is acquired before,
and nothing is sent if that fails. -/
inductive Client.Passes (client : Client) (request : Http.Request) : Option String →
    Trace World → Except Failure Http.Response → Option String → Prop where
  | known {bearer : String} {t : Trace World} {r : Except Failure Http.Response}
      (h : client.Delivers request bearer t r) :
      Passes client request (some bearer) t r (some bearer)
  | acquired {bearer : String} {t u : Trace World} {r : Except Failure Http.Response}
      (htoken : client.credential.token.Yields t (.ok bearer))
      (h : client.Delivers request bearer u r) :
      Passes client request none (t ++ u) r (some bearer)
  | refused {failure : Failure} {t : Trace World}
      (htoken : client.credential.token.Yields t (.error failure)) :
      Passes client request none t (.error failure) none

/-- Where sending a request is cut. -/
def Client.Undelivered (client : Client) (request : Http.Request) (bearer : String)
    (t : Trace World) : Prop :=
  Collapses (Attempted request bearer) IsThrottled (fun _ => False) client.retries client.patience t

/-! ### The law of polls -/

/-- A poll is a request that is sent, and what its answer tells. -/
def Client.Polls (client : Client) (operation : Operation.Follow) (bearer : String)
    (t : Trace World) (told : Except Failure Client.Progress) : Prop :=
  ∃ r, client.Delivers operation.poll bearer t r ∧ told = r.bind operation.progress

/-- What is made of the last poll. -/
inductive Concludes (operation : Operation.Follow) :
    Ending (Except Failure Client.Progress) → Except Failure Unit → Prop where
  | ended : Concludes operation (.settled (.ok .ended)) (.ok ())
  | failed (failure : Failure) :
      Concludes operation (.settled (.error failure)) (.error failure)
  | spent :
      Concludes operation (.spent (.ok .running)) (.error (.pollTimeout operation.url.render))

/-- An operation is polled with a token until a poll does not tell that it goes on or the backoff is
spent. -/
def Client.Follows (client : Client) (operation : Operation.Follow) (bearer : String)
    (t : Trace World) (r : Except Failure Unit) : Prop :=
  ∃ ending, Persists (client.Polls operation bearer) (· = .ok .running) client.polls
    client.patience t ending ∧ Concludes operation ending r

/-- Where following an operation is cut. -/
def Client.Unfollowed (client : Client) (operation : Operation.Follow) (bearer : String)
    (t : Trace World) : Prop :=
  Collapses (client.Polls operation bearer) (· = .ok .running)
    (client.Undelivered operation.poll bearer) client.polls client.patience t

/-! ### Requests obey the law -/

section Requests

variable {client : Client} {request : Http.Request} {bearer : String} {t : Trace World}
  {r : Except Failure Http.Response}

lemma yields_attempt_eq : (Client.attempt bearer request).Yields = Attempted request bearer := by
  funext u outcome
  rw [attempt_eq]
  refine propext ⟨?_, ?_⟩
  · split
    next hbearer =>
      rw [Program.yields_ask_iff]
      rintro ⟨reply, _, rfl, hdone⟩
      obtain ⟨rfl, rfl⟩ := Program.yields_done_iff.1 hdone
      cases reply with
      | none => exact .lost hbearer
      | some response => exact .answered hbearer response
    next hbearer =>
      rw [Program.yields_done_iff]
      rintro ⟨rfl, rfl⟩
      exact .unsent hbearer
  · intro h
    cases h with
    | answered hbearer response =>
      rw [if_pos (show Http.isHeaderValue ("Bearer " ++ bearer) = true from hbearer)]
      exact .answered (.here _)
    | lost hbearer =>
      rw [if_pos (show Http.isHeaderValue ("Bearer " ++ bearer) = true from hbearer)]
      exact .answered (.here _)
    | unsent hbearer =>
      rw [if_neg (show ¬ Http.isHeaderValue ("Bearer " ++ bearer) = true from hbearer)]
      exact .here _

lemma attempt_after_cut_eq :
    ((Client.attempt bearer request).After · .cut) = fun _ => False := by
  funext u
  rw [attempt_eq]
  split <;> simp

lemma asksAgain_eq_isThrottled :
    (fun outcome => Client.asksAgain outcome = true) = IsThrottled := by
  funext outcome
  cases outcome with
  | error failure => simp [Client.asksAgain, IsThrottled]
  | ok response => simp [Client.asksAgain, IsThrottled, Http.isRetryable]

lemma reports_iff {outcome : Except Failure Http.Response} :
    Reports outcome r ↔ r = judge outcome := by
  cases outcome with
  | error failure =>
    constructor
    · rintro ⟨⟩
      rfl
    · rintro rfl
      exact .lost failure
  | ok response =>
    have hsuccess : response.isSuccess = true ↔ 200 ≤ response.status ∧ response.status < 300 := by
      simp [Http.Response.isSuccess]
    constructor
    · intro h
      cases h with
      | granted h => exact (if_pos (hsuccess.2 h)).symm
      | refused h => exact (if_neg (mt hsuccess.1 h)).symm
    · rintro rfl
      by_cases h : 200 ≤ response.status ∧ response.status < 300
      · rw [show judge (.ok response) = .ok response from if_pos (hsuccess.2 h)]
        exact .granted h
      · rw [show judge (.ok response) = .error (failureOf response) from
          if_neg (mt hsuccess.1 h)]
        exact .refused h

/-- Send a request with a token, again while the answer asks for it. -/
def Client.deliver (client : Client) (bearer : String) (request : Http.Request) :
    Program World (Except Failure Http.Response) :=
  (Retry.inWorld (Client.attempt bearer request)
    (Retry.persist client.patience Client.asksAgain client.retries)).bind fun outcome =>
      .done (judge outcome)

lemma runFrom_send_some : (client.send request).runFrom (some bearer) =
    (client.deliver bearer request).bind fun r => .done (r, some bearer) := by
  rw [runFrom_send, runFrom_bearer_some, Program.done_bind, resume, runFrom_ofOutcome,
    Client.deliver]

/-- Without a token, one is acquired first. -/
lemma runFrom_send_none : (client.send request).runFrom none =
    client.credential.token.bind fun
      | .ok bearer => (client.send request).runFrom (some bearer)
      | .error failure => .done (.error failure, none) := by
  rw [runFrom_send, runFrom_bearer_none, Program.bind_assoc]
  congr 1
  funext acquired
  cases acquired with
  | error failure => rfl
  | ok bearer => exact (runFrom_send client request (some bearer)).symm

lemma yields_deliver_iff :
    (client.deliver bearer request).Yields t r ↔ client.Delivers request bearer t r := by
  rw [Client.deliver, yields_map_iff]
  simp only [Retry.yields_persist_iff, yields_attempt_eq, asksAgain_eq_isThrottled, Client.Delivers,
    reports_iff]
  constructor
  · rintro ⟨_, ⟨ending, h, rfl⟩, rfl⟩
    exact ⟨ending, h, rfl⟩
  · rintro ⟨ending, h, rfl⟩
    exact ⟨_, ⟨ending, h, rfl⟩, rfl⟩

lemma deliver_after_cut_iff :
    (client.deliver bearer request).After t .cut ↔ client.Undelivered request bearer t := by
  rw [Client.deliver, map_after_cut_iff, Retry.persist_after_cut_iff, yields_attempt_eq,
    asksAgain_eq_isThrottled, attempt_after_cut_eq, Client.Undelivered]

lemma yields_send_some_iff {token' : Option String} :
    ((client.send request).runFrom (some bearer)).Yields t (r, token') ↔
      client.Delivers request bearer t r ∧ token' = some bearer := by
  rw [runFrom_send_some, yields_map_iff]
  simp only [yields_deliver_iff, Prod.mk.injEq]
  constructor
  · rintro ⟨_, h, rfl, rfl⟩
    exact ⟨h, rfl⟩
  · rintro ⟨h, rfl⟩
    exact ⟨r, h, rfl, rfl⟩

lemma yields_send_iff {token token' : Option String} :
    ((client.send request).runFrom token).Yields t (r, token') ↔
      client.Passes request token t r token' := by
  constructor
  · cases token with
    | some bearer =>
      rw [yields_send_some_iff]
      rintro ⟨h, rfl⟩
      exact .known h
    | none =>
      rw [runFrom_send_none, Program.yields_bind_iff]
      rintro ⟨t₁, t₂, failure | bearer, rfl, htoken, hsend⟩
      · obtain ⟨rfl, ⟨⟩⟩ := Program.yields_done_iff.1 hsend
        rw [List.append_nil]
        exact .refused htoken
      · obtain ⟨h, rfl⟩ := yields_send_some_iff.1 hsend
        exact .acquired htoken h
  · intro h
    cases h with
    | known h => exact yields_send_some_iff.2 ⟨h, rfl⟩
    | acquired htoken h =>
      rw [runFrom_send_none]
      exact Program.yields_bind_iff.2
        ⟨_, _, _, rfl, htoken, yields_send_some_iff.2 ⟨h, rfl⟩⟩
    | refused htoken =>
      rw [runFrom_send_none]
      exact Program.yields_bind_iff.2 ⟨_, [], _, (List.append_nil _).symm, htoken, .here _⟩

lemma send_after_cut_iff : ((client.send request).runFrom (some bearer)).After t .cut ↔
    client.Undelivered request bearer t := by
  rw [runFrom_send_some, map_after_cut_iff, deliver_after_cut_iff]

end Requests

/-! ### Polls obey the law -/

section Polls

variable {client : Client} {operation : Operation.Follow} {bearer : String} {t : Trace World}
  {r : Except Failure Unit}

/-- Poll an operation once, with a token. -/
def Client.inquire (client : Client) (bearer : String) (operation : Operation.Follow) :
    Program World (Except Failure Client.Progress) :=
  (client.deliver bearer operation.poll).bind fun r => .done (r.bind operation.progress)

/-- Whether a poll tells that the operation goes on. -/
def tellsRunning : Except Failure Client.Progress → Bool
  | .ok .running => true
  | _ => false

/-- What is made of the last poll of an operation. -/
def Operation.Follow.verdict (operation : Operation.Follow) :
    Except Failure Client.Progress → Except Failure Unit
  | .ok .ended => .ok ()
  | .ok .running => .error (.pollTimeout operation.url.render)
  | .error failure => .error failure

lemma runFrom_poll_some : (client.poll operation).runFrom (some bearer) =
    (client.inquire bearer operation).bind fun told => .done (told, some bearer) := by
  rw [runFrom_poll, runFrom_send_some, Client.inquire, Program.bind_assoc, Program.bind_assoc]
  congr 1
  funext r
  cases r with
  | error failure => rfl
  | ok response => exact runFrom_ofExcept _ _

/-- Polling is repeating a poll. -/
lemma runFrom_pollFrom_some {start patience : Nat} {backoff : Backoff} :
    (Client.pollFrom operation.url (client.poll operation) start patience backoff).runFrom
        (some bearer) =
      (Retry.inWorld (client.inquire bearer operation)
        (Retry.attemptFrom tellsRunning start patience backoff)).bind fun told =>
          .done (operation.verdict told, some bearer) := by
  induction patience generalizing backoff with
  | zero => rfl
  | succ patience ih =>
    rw [runFrom_pollFrom_succ, runFrom_poll_some, Retry.inWorld_attemptFrom_succ,
      Program.bind_assoc, Program.bind_assoc]
    congr 1
    funext told
    rcases told with failure | _ | _
    · rfl
    · rfl
    · rw [Program.done_bind, resume, runFrom_repoll_running]
      change Program.ask _ _ = Program.ask _ _
      congr 1
      funext (now : Nat)
      change _ = Program.bind (if backoff.isSpent (now - start) = true then _ else _) _
      cases backoff.isSpent (now - start) with
      | true => rfl
      | false =>
        cases backoff.advance? with
        | none => rfl
        | some next =>
          change Program.ask _ _ = Program.ask _ _
          congr 1
          funext slept
          exact ih

lemma runFrom_follow_some : (client.follow operation).runFrom (some bearer) =
    (Retry.inWorld (client.inquire bearer operation)
      (Retry.persist client.patience tellsRunning client.polls)).bind fun told =>
        .done (operation.verdict told, some bearer) := by
  rw [runFrom_follow, Retry.inWorld_persist]
  change Program.ask _ _ = Program.ask _ _
  congr 1
  funext (start : Nat)
  exact runFrom_pollFrom_some

lemma concludes_iff {t : Trace World} {ending : Ending (Except Failure Client.Progress)}
    (h : Persists (client.Polls operation bearer) (· = .ok .running) client.polls client.patience t
      ending) :
    Concludes operation ending r ↔ r = operation.verdict ending.outcome := by
  constructor
  · intro h
    cases h <;> rfl
  · rintro rfl
    cases ending with
    | settled told =>
      rcases told with failure | _ | _
      · exact .failed failure
      · exact .ended
      · exact absurd rfl h.not_again
    | spent told =>
      rw [h.again]
      exact .spent

lemma yields_inquire_eq :
    (client.inquire bearer operation).Yields = client.Polls operation bearer := by
  funext u told
  rw [Client.inquire]
  simp only [yields_map_iff, yields_deliver_iff, Client.Polls]

lemma tellsRunning_eq : (fun told => tellsRunning told = true) = (· = .ok .running) := by
  funext told
  rcases told with failure | _ | _ <;> simp [tellsRunning]

lemma yields_follow_iff {token' : Option String} :
    ((client.follow operation).runFrom (some bearer)).Yields t (r, token') ↔
      client.Follows operation bearer t r ∧ token' = some bearer := by
  rw [runFrom_follow_some, yields_map_iff]
  simp only [Retry.yields_persist_iff, yields_inquire_eq, tellsRunning_eq, Prod.mk.injEq]
  constructor
  · rintro ⟨_, ⟨ending, h, rfl⟩, rfl, rfl⟩
    exact ⟨⟨ending, h, (concludes_iff h).2 rfl⟩, rfl⟩
  · rintro ⟨⟨ending, h, hconcludes⟩, rfl⟩
    exact ⟨_, ⟨ending, h, rfl⟩, (concludes_iff h).1 hconcludes, rfl⟩

lemma follow_after_cut_iff : ((client.follow operation).runFrom (some bearer)).After t .cut ↔
    client.Unfollowed operation bearer t := by
  have hcut : ((client.inquire bearer operation).After · .cut) =
      client.Undelivered operation.poll bearer := by
    funext u
    rw [Client.inquire, map_after_cut_iff, deliver_after_cut_iff]
  rw [runFrom_follow_some, map_after_cut_iff, Retry.persist_after_cut_iff, yields_inquire_eq,
    tellsRunning_eq, hcut, Client.Unfollowed]

end Polls

/-! ### Requests and polls -/

/-- A request is repeated, with the same token and contents, exactly while its answers are throttled
and the backoff yields another interval, which is waited. The first other answer is reported, or
else the last one that was throttled. A poll is such a request, with a backoff of its own, and the
polls of an operation are repeated exactly while they tell that it goes on and the backoff of polls
yields another interval. Only the number of attempts that are allowed, or an interval that cannot be
computed, cuts this short. -/
theorem requests_repeated (client : Client) :
    (∀ request token t r token', ((client.send request).runFrom token).Yields t (r, token') ↔
      client.Passes request token t r token') ∧
    (∀ operation bearer t r token',
      ((client.follow operation).runFrom (some bearer)).Yields t (r, token') ↔
        client.Follows operation bearer t r ∧ token' = some bearer) ∧
    (∀ request bearer t, ((client.send request).runFrom (some bearer)).After t .cut ↔
      client.Undelivered request bearer t) ∧
    ∀ operation bearer t, ((client.follow operation).runFrom (some bearer)).After t .cut ↔
      client.Unfollowed operation bearer t :=
  ⟨fun _ _ _ _ _ => yields_send_iff, fun _ _ _ _ _ => yields_follow_iff,
    fun _ _ _ => send_after_cut_iff, fun _ _ _ => follow_after_cut_iff⟩

/-! ### A throttled request -/

section Throttled

/-- A client that makes one attempt. -/
def creator : Client := ⟨managerUrl, .fixed "token", .forCalls, .forPolls, 1⟩

/-- Where the resource is. -/
def createdUrl : Url :=
  { managerUrl with path := .segments ["resource"], query := some "api-version=1" }

/-- The answer that shows the resource. -/
def showingAnswer : Http.Response := ⟨200, [], "true"⟩

lemma resourceUrl_created : Client.resourceUrl creator.base "/resource" "1" = .ok createdUrl := by
  have hjoin : creator.base.join "/resource" =
      .ok { managerUrl with path := .segments ["resource"] } := by
    decide +kernel
  rw [Client.resourceUrl, hjoin]
  decide +kernel

/-- An answer that asks to come again. -/
def throttlingAnswer : Http.Response := ⟨429, [], ""⟩

/-- An attempt that is answered so, after which 100 ms are waited. -/
def throttledRound : Retry.Round (Except Failure Http.Response) :=
  ⟨[⟨.http (bearing (inquiry createdUrl) "token"), some throttlingAnswer⟩], .ok throttlingAnswer,
    ⟨1, 100000000⟩⟩

lemma repeated_throttledRound :
    Retry.Repeated (Attempted (inquiry createdUrl) "token") IsThrottled 0 Backoff.forCalls
      [throttledRound] (Backoff.calling 1) :=
  Retry.repeated_cons_iff.2 ⟨.answered (by unfold IsSendable; decide +kernel) _,
    ⟨_, rfl, by decide⟩, by decide, by decide, _, Backoff.advance_calling 0, Retry.repeated_nil⟩

/-- A client that may make two attempts gets the answer to the second one. One that may make a
single attempt is cut after its wait. -/
theorem throttledRound_repeated :
    ((({ creator with patience := 2 } : Client).send (inquiry createdUrl)).runFrom
      (some "token")).Yields
        (⟨.clock, (0 : Nat)⟩ :: (throttledRound.exchanges ++
          [⟨.http (bearing (inquiry createdUrl) "token"), some showingAnswer⟩]))
        (.ok showingAnswer, some "token") ∧
    ((creator.send (inquiry createdUrl)).runFrom (some "token")).After
      (⟨.clock, (0 : Nat)⟩ :: throttledRound.exchanges) .cut := by
  refine ⟨((requests_repeated _).1 _ _ _ _ _).2 (.known ⟨.settled (.ok showingAnswer), ?_, ?_⟩),
    ((requests_repeated creator).2.2.1 _ _ _).2 ⟨0, _, rfl, ?_⟩⟩
  · refine ⟨0, [throttledRound], _, rfl, by decide, .settled repeated_throttledRound ?_ ?_⟩
    · exact .answered (by unfold IsSendable; decide +kernel) _
    · rintro ⟨_, ⟨⟩, hstatus⟩
      revert hstatus
      decide
  · exact .granted (by decide)
  · have hbreaks : Retry.Breaks (Attempted (inquiry createdUrl) "token") IsThrottled
        (fun _ => False) 0 Backoff.forCalls 1 _ := .exhausted repeated_throttledRound rfl
    rwa [List.flatMap_singleton] at hbreaks

end Throttled

end BucketOperator.Azure
