import BucketOperator.Proofs.Azure.Token
import BucketOperator.Proofs.Retry

/-!
# Sending a request

What the world was asked, and what it answered, when a client of Resource Manager has sent a
request: the token was acquired unless the client had one, and the request was repeated while its
answers asked for that.
-/

namespace BucketOperator.Azure

open Program (yields_bind_iff yields_done_iff yields_ask_iff)
open Retry (Attempts)

/-- A request as it is sent with a token. -/
def bearing (request : Http.Request) (token : String) : Http.Request :=
  { request with headers := ("authorization", "Bearer " ++ token) :: request.headers }

/-- A request was sent with some token, and answered. -/
def Sent (request : Http.Request) (response : Http.Response) (t : Trace World) : Prop :=
  ∃ token, (⟨.http (bearing request token), some response⟩ : Exchange World) ∈ t

/-- Whether a request that was sent with a token was granted. -/
def isGranted : Exchange World → Bool
  | ⟨.http request, reply⟩ =>
    (request.headers.lookup "authorization").isSome &&
      (reply : Http.Reply).any Http.Response.isSuccess
  | _ => false

/-- The outcome of an attempt. -/
def answerOf : Http.Reply → Except Failure Http.Response
  | some response => .ok response
  | none => .error .transport

lemma Credential.Asks.ne_bearing {credential : Credential} {request sent : Http.Request}
    {token : String} (h : credential.Asks request) : request ≠ bearing sent token := by
  rintro rfl
  cases h.lookup_authorization

/-- A success asks for no other attempt. -/
lemma not_isRetryable_of_isSuccess {response : Http.Response} (h : response.isSuccess = true) :
    Http.isRetryable response.status = false := by
  simp only [Http.Response.isSuccess, Bool.and_eq_true, decide_eq_true_eq] at h
  simp only [Http.isRetryable, List.contains_eq_mem, decide_eq_false_iff_not, List.mem_cons,
    List.not_mem_nil, or_false]
  omega

/-! ### Attempts -/

section Attempting

variable {request : Http.Request} {token : String} {t u : Trace World}
  {r : Except Failure Http.Response}

lemma sent_append {response : Http.Response} :
    Sent request response (t ++ u) ↔ Sent request response t ∨ Sent request response u := by
  simp only [Sent, List.mem_append, exists_or]

/-- Whatever else is asked, it sends nothing. -/
lemma sent_cons {e : Exchange World} (he : ∀ sent, e.call ≠ .http sent)
    {response : Http.Response} : Sent request response (e :: t) ↔ Sent request response t := by
  constructor
  · rintro ⟨token, hmem⟩
    rcases List.mem_cons.1 hmem with rfl | hmem
    · exact absurd rfl (he _)
    · exact ⟨token, hmem⟩
  · rintro ⟨token, hmem⟩
    exact ⟨token, List.mem_cons_of_mem _ hmem⟩

lemma attempt_eq (request : Http.Request) (token : String) :
    Client.attempt token request =
      if Http.isHeaderValue ("Bearer " ++ token) then
        .ask (.http (bearing request token)) fun reply => .done (answerOf reply)
      else .done (.error .transport) := by
  rw [Client.attempt]
  split
  · change Program.ask _ _ = Program.ask _ _
    congr 1
    funext (reply : Http.Reply)
    cases reply <;> rfl
  · rfl

/-- An attempt asks at most once. -/
lemma yields_attempt (h : (Client.attempt token request).Yields t r) :
    (t = [] ∧ r = .error .transport) ∨
      ∃ reply : Http.Reply, t = [⟨.http (bearing request token), reply⟩] ∧
        r = answerOf reply := by
  rw [attempt_eq] at h
  split at h
  · obtain ⟨reply, _, rfl, hdone⟩ := yields_ask_iff.1 h
    obtain ⟨rfl, rfl⟩ := yields_done_iff.1 hdone
    exact .inr ⟨reply, rfl, rfl⟩
  · exact .inl (yields_done_iff.1 h)

/-- What a run of attempts has asked and heard. -/
structure Sending (request : Http.Request) (token : String) (t : Trace World)
    (r : Except Failure Http.Response) : Prop where
  requests : ∀ (sent : Http.Request) (reply : Http.Reply),
    (⟨.http sent, reply⟩ : Exchange World) ∈ t → sent = bearing request token
  told : ∀ response, r = .ok response → Sent request response t
  heard : ∀ response, Sent request response t → Http.isRetryable response.status = false →
    r = .ok response
  lost : ∀ failure, r = .error failure → failure = .transport
  once : t.countP isGranted ≤ 1

lemma eq_of_bearing {sent : Http.Request} {token' : String}
    (h : bearing sent token' = bearing request token) : sent = request := by
  obtain ⟨method, url, headers, payload⟩ := sent
  obtain ⟨method', url', headers', payload'⟩ := request
  simp only [bearing, Http.Request.mk.injEq, List.cons.injEq] at h
  simp only [Http.Request.mk.injEq]
  exact ⟨h.1, h.2.1, h.2.2.1.2, h.2.2.2⟩

/-- Only one request is sent. -/
lemma Sending.eq_of_sent (h : Sending request token t r) {sent : Http.Request}
    {response : Http.Response} (hsent : Sent sent response t) : sent = request := by
  obtain ⟨_, hmem⟩ := hsent
  exact eq_of_bearing (h.requests _ _ hmem)

/-- An attempt has heard what it returns. -/
lemma sending_attempt (h : (Client.attempt token request).Yields t r) :
    Sending request token t r := by
  rcases yields_attempt h with ⟨rfl, rfl⟩ | ⟨reply, rfl, rfl⟩
  · constructor <;> simp [Sent]
  · constructor
    · intro sent reply' hmem
      cases List.mem_singleton.1 hmem
      rfl
    · intro response hr
      cases reply with
      | none => cases hr
      | some answer =>
        cases hr
        exact ⟨token, List.mem_singleton.2 rfl⟩
    · rintro response ⟨_, hmem⟩ _
      obtain ⟨_, hreply⟩ := Exchange.mk.inj (List.mem_singleton.1 hmem)
      exact (congrArg answerOf (eq_of_heq hreply)).symm
    · intro failure hr
      cases reply with
      | none =>
        cases hr
        rfl
      | some answer => cases hr
    · exact List.countP_le_length

/-- Nothing is granted to an attempt that asks for another one. -/
lemma not_granted_of_asksAgain {e : Exchange World}
    (h : (Client.attempt token request).Yields t r)
    (hr : Client.asksAgain r = true) (he : e ∈ t) :
    ∃ response : Http.Response, e = ⟨.http (bearing request token), some response⟩ ∧
      Http.isRetryable response.status = true := by
  rcases yields_attempt h with ⟨rfl, rfl⟩ | ⟨reply, rfl, rfl⟩
  · cases he
  · cases reply with
    | none => cases hr
    | some response => exact ⟨response, List.mem_singleton.1 he, hr⟩

lemma sending_of_attempts (h : Attempts (Client.attempt token request) Client.asksAgain t r) :
    Sending request token t r := by
  obtain ⟨before, u, after, rfl, hu, hothers⟩ := h.split
  have hlast := sending_attempt hu
  -- What the other exchanges are.
  have hother : ∀ (sent : Http.Request) (reply : Http.Reply),
      (⟨.http sent, reply⟩ : Exchange World) ∈ before ++ after →
        ∃ response, sent = bearing request token ∧ reply = some response ∧
          Http.isRetryable response.status = true := by
    intro sent reply hmem
    rcases hothers _ hmem with hwait | ⟨v, b, hv, hb, hmem⟩
    · rcases hwait with hwait | ⟨duration, hwait⟩ <;> cases hwait
    · obtain ⟨response, he, hresponse⟩ := not_granted_of_asksAgain hv hb hmem
      obtain ⟨hcall, hreply⟩ := Exchange.mk.inj he
      cases hcall
      exact ⟨response, rfl, eq_of_heq hreply, hresponse⟩
  have hsplit : ∀ e : Exchange World, e ∈ before ++ u ++ after → e ∈ u ∨ e ∈ before ++ after := by
    intro e he
    simp only [List.mem_append] at he ⊢
    tauto
  constructor
  · intro sent reply hmem
    rcases hsplit _ hmem with hmem | hmem
    · exact hlast.requests sent reply hmem
    · obtain ⟨_, hsent, _⟩ := hother sent reply hmem
      exact hsent
  · intro response hr
    exact sent_append.2 (.inl (sent_append.2 (.inr (hlast.told response hr))))
  · rintro response ⟨token', hmem⟩ hresponse
    rcases hsplit _ hmem with hmem | hmem
    · exact hlast.heard response ⟨token', hmem⟩ hresponse
    · obtain ⟨_, _, hreply, hagain⟩ := hother _ _ hmem
      cases hreply
      rw [hresponse] at hagain
      cases hagain
  · exact hlast.lost
  · have hnone : ∀ e ∈ before ++ after, ¬ isGranted e = true := by
      rintro ⟨call, reply⟩ he hgranted
      cases call with
      | http sent =>
        obtain ⟨response, _, rfl, hagain⟩ := hother sent reply he
        simp only [isGranted, Bool.and_eq_true, Option.any_some] at hgranted
        rw [not_isRetryable_of_isSuccess hgranted.2] at hagain
        cases hagain
      | _ => cases hgranted
    have hcount : (before ++ after).countP isGranted = 0 := List.countP_eq_zero.2 hnone
    rw [List.countP_append] at hcount
    have honce := hlast.once
    rw [List.countP_append, List.countP_append]
    omega

/-- Whether an answer that asks for no other attempt was given can be told from the outcome. -/
lemma Sending.exists_sent_iff (h : Sending request token t r) {Q : Http.Response → Prop}
    (hQ : ∀ response, Q response → Http.isRetryable response.status = false) :
    (∃ response, Sent request response t ∧ Q response) ↔
      ∃ response, r = .ok response ∧ Q response := by
  constructor
  · rintro ⟨response, hsent, hq⟩
    exact ⟨response, h.heard response hsent (hQ response hq), hq⟩
  · rintro ⟨response, hr, hq⟩
    exact ⟨response, h.told response hr, hq⟩

/-- What is read from an answer tells of an absence exactly when the answer has status 404. -/
lemma isAbsence_judge_bind {α : Type} {read : Http.Response → Except Failure α}
    (hlost : ∀ failure, r = .error failure → failure = .transport)
    (hread : ∀ response failure, read response = .error failure → failure.isNotFound = false) :
    IsAbsence ((judge r).bind read) ↔ ∃ response, r = .ok response ∧ response.status = 404 := by
  cases r with
  | error failure =>
    cases hlost failure rfl
    simp [judge, Except.bind, Failure.isNotFound]
  | ok response =>
    simp only [judge, Except.bind, Except.ok.injEq, exists_eq_left']
    by_cases hs : response.isSuccess = true
    · rw [if_pos hs]
      constructor
      · rintro ⟨failure, hfailure, hf⟩
        rw [hread response failure hfailure] at hf
        cases hf
      · intro hstatus
        rw [not_isSuccess_of_status hstatus] at hs
        cases hs
    · rw [if_neg hs, isAbsence_error, isNotFound_failureOf]

end Attempting

/-! ### Tokens -/

section Tokens

variable {client : Client} {credential : Credential} {request : Http.Request}
  {token token' : Option String} {t u : Trace World}

lemma notFound_append :
    credential.NotFound (t ++ u) ↔ credential.NotFound t ∨ credential.NotFound u := by
  simp only [Credential.NotFound, List.mem_append, and_or_left, exists_or]

/-- Nothing is sent with a token while one is acquired. -/
lemma not_sent_of_explains {r : Except Failure String} (h : credential.Explains t r)
    {response : Http.Response} : ¬ Sent request response t := by
  rintro ⟨token, hmem⟩
  exact (h.1 _ _ hmem).ne_bearing rfl

lemma countP_isGranted_of_explains {r : Except Failure String} (h : credential.Explains t r) :
    t.countP isGranted = 0 := by
  rw [List.countP_eq_zero]
  rintro ⟨call, reply⟩ he hgranted
  cases call with
  | http request =>
    simp only [isGranted, (h.1 request reply he).lookup_authorization] at hgranted
    cases hgranted
  | _ => cases hgranted

lemma not_notFound_of_sending {bearer : String} {r : Except Failure Http.Response}
    (h : Sending request bearer u r) : ¬ credential.NotFound u := by
  rintro ⟨sent, response, hasks, _, hmem⟩
  exact hasks.ne_bearing (h.requests _ _ hmem)

/-- Where a request was sent with a token that was acquired, no token was missing. -/
lemma Sending.tokens {bearer : String} {start : Nat} {r : Except Failure Http.Response}
    (h : Sending request bearer u r) (hexplains : credential.Explains t (.ok bearer)) :
    ¬ credential.NotFound (t ++ ⟨.clock, start⟩ :: u) := by
  rw [notFound_append, ← hexplains.2]
  rintro (habsence | ⟨sent, response, hasks, hstatus, hmem⟩)
  · exact isAbsence_ok habsence
  · rcases List.mem_cons.1 hmem with hfirst | hmem
    · cases hfirst
    · exact not_notFound_of_sending h ⟨sent, response, hasks, hstatus, hmem⟩

/-- How a client gets its token. -/
lemma yields_bearer {r : Except Failure String}
    (h : (client.bearer.runFrom token).Yields t (r, token')) :
    client.credential.Explains t r ∧ (∀ bearer, r = .ok bearer → token' = some bearer) ∧
      (token.isSome = true → t = []) := by
  cases token with
  | some bearer =>
    rw [runFrom_bearer_some] at h
    obtain ⟨rfl, ⟨⟩⟩ := yields_done_iff.1 h
    refine ⟨?_, ?_, fun _ => rfl⟩
    · simp [Credential.Explains, Credential.NotFound]
    · rintro _ ⟨⟩
      rfl
  | none =>
    rw [runFrom_bearer_none] at h
    obtain ⟨t₁, t₂, outcome, rfl, hacquired, hkept⟩ := yields_bind_iff.1 h
    cases outcome with
    | ok bearer =>
      obtain ⟨rfl, ⟨⟩⟩ := yields_done_iff.1 hkept
      rw [List.append_nil]
      refine ⟨explains_token hacquired, ?_, by simp⟩
      rintro _ ⟨⟩
      rfl
    | error failure =>
      obtain ⟨rfl, ⟨⟩⟩ := yields_done_iff.1 hkept
      rw [List.append_nil]
      exact ⟨explains_token hacquired, by simp, by simp⟩

/-- How a client sends a request: without a token it gives up. -/
lemma yields_send {r : Except Failure Http.Response}
    (h : ((client.send request).runFrom token).Yields t (r, token')) :
    (∃ failure, r = .error failure ∧ client.credential.Explains t (.error failure) ∧
      (token.isSome = true → t = [])) ∨
    ∃ (t₁ u : Trace World) (start : Nat) (bearer : String) (answer : Except Failure Http.Response),
      t = t₁ ++ ⟨.clock, start⟩ :: u ∧ client.credential.Explains t₁ (.ok bearer) ∧
        Sending request bearer u answer ∧ r = judge answer ∧ token' = some bearer := by
  rw [runFrom_send] at h
  obtain ⟨t₁, t₂, ⟨acquired, current⟩, rfl, hbearer, hask⟩ := yields_bind_iff.1 h
  obtain ⟨hexplains, hcurrent, hknown⟩ := yields_bearer hbearer
  cases acquired with
  | error failure =>
    obtain ⟨rfl, ⟨⟩⟩ := yields_done_iff.1 hask
    rw [List.append_nil]
    exact .inl ⟨failure, rfl, hexplains, hknown⟩
  | ok bearer =>
    cases hcurrent bearer rfl
    rw [resume, runFrom_ofOutcome, Program.bind_assoc] at hask
    obtain ⟨t₃, t₄, answer, rfl, hattempts, hjudge⟩ := yields_bind_iff.1 hask
    obtain ⟨rfl, ⟨⟩⟩ := yields_done_iff.1 hjudge
    obtain ⟨start, u, rfl, hu⟩ := Retry.yields_persist hattempts
    rw [List.append_nil]
    exact .inr ⟨t₁, u, start, bearer, answer, rfl, hexplains, sending_of_attempts hu, rfl, rfl⟩

/-- Without a token nothing is sent. -/
lemma yields_send_of_no_token {failure : Failure}
    (h : client.credential.token.Yields t (.error failure)) :
    ((client.send request).runFrom none).Yields t (.error failure, none) := by
  have hbearer : (client.bearer.runFrom none).Yields t (.error failure, none) := by
    rw [runFrom_bearer_none]
    exact yields_bind_iff.2 ⟨t, [], .error failure, by simp, h, .here _⟩
  rw [runFrom_send]
  exact yields_bind_iff.2 ⟨t, [], (.error failure, none), by simp, hbearer, .here _⟩

end Tokens

end BucketOperator.Azure
