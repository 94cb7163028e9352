import BucketOperator.Proofs.Azure.Polling
import BucketOperator.Proofs.Azure.Removal

/-!
# Deleting a resource

What the answers to a deletion say about the resource. A deletion that is taken for done was
confirmed: it was answered with status 404, or granted with all that it started, unless one of
three other things was taken for that. These are a token that was not found, an operation that was
not found, and an operation that nobody followed because the answer was not "accepted".
-/

namespace BucketOperator.Azure

open Program (yields_bind_iff yields_done_iff yields_ask_iff)

/-! ### What a deletion is told -/

/-- The request by which a resource is deleted. -/
def order (url : Url) : Http.Request := ⟨.delete, url, [], none⟩

/-- Whether an answer starts an operation that is not followed. -/
def IsOverlooked (response : Http.Response) : Prop :=
  response.isSuccess = true ∧ response.status ≠ 202 ∧ startedOperation? response ≠ .ok none

/-- Whether an answer settles a deletion, with no operation to follow. -/
def Settles (response : Http.Response) : Prop :=
  response.status = 404 ∨ response.isSuccess = true ∧
    (response.status ≠ 202 ∨ startedOperation? response = .ok none)

/-- Whether an answer confirms the deletion it was given to: there is no such resource, or the
deletion was granted and the operation that it started, if any, was followed to a good end. -/
def Confirms (response : Http.Response) (t : Trace World) : Prop :=
  response.status = 404 ∨ response.isSuccess = true ∧
    (startedOperation? response = .ok none ∨
      ∃ operation, startedOperation? response = .ok (some operation) ∧ WasFollowed operation t)

/-- The deletion of the resource at a path was sent there and confirmed. -/
def IsConfirmed (client : Client) (path version : String) (t : Trace World) : Prop :=
  ∃ url response, Client.resourceUrl client.base path version = .ok url ∧
    Sent (order url) response t ∧ Confirms response t

/-- What else is taken for a confirmation. -/
inductive IsPresumed (client : Client) (t : Trace World) : Prop where
  | token (h : client.credential.NotFound t)
  | operation {operation : Operation.Follow} {response : Http.Response}
      (h : Sent operation.poll response t) (hstatus : response.status = 404)
  | overlooked {url : Url} {response : Http.Response} (h : Sent (order url) response t)
      (hresponse : IsOverlooked response)

lemma order_ne_poll {url : Url} {operation : Operation.Follow} : order url ≠ operation.poll := by
  rintro ⟨⟩

lemma order_injective : Function.Injective order := by
  rintro url url' ⟨⟩
  rfl

/-! ### Deletions as programs -/

/-- How a deletion goes on after its answer. -/
def Client.await (client : Client) (response : Http.Response) : Session Unit :=
  if response.status = 202 then do
    match ← (startedOperation? response : Except Failure (Option Operation.Follow)) with
    | some operation => client.follow operation
    | none => return ()
  else return ()

section Programs

variable {client : Client} {path version : String} {response : Http.Response}
  {token : Option String}

lemma runFrom_deleteResource :
    (client.deleteResource path version).runFrom token =
      match Client.resourceUrl client.base path version with
      | .error failure => .done (.error failure, token)
      | .ok url => ((client.send (order url)).runFrom token).bind (resume client.await) := by
  rw [Client.deleteResource, runFrom_bind, Client.sendFor, runFrom_bind, runFrom_ofExcept]
  cases Client.resourceUrl client.base path version <;> rfl

lemma runFrom_await_of_ne (h : response.status ≠ 202) :
    (client.await response).runFrom token = .done (.ok (), token) := by
  rw [Client.await, if_neg h]
  rfl

lemma runFrom_await_of_eq (h : response.status = 202) :
    (client.await response).runFrom token =
      match startedOperation? response with
      | .error failure => .done (.error failure, token)
      | .ok none => .done (.ok (), token)
      | .ok (some operation) => (client.follow operation).runFrom token := by
  rw [Client.await, if_pos h, runFrom_bind, runFrom_ofExcept]
  rcases startedOperation? response with failure | _ | operation <;> rfl

end Programs

/-! ### What a deletion has heard -/

lemma not_isNotFound_startedOperation? {response : Http.Response} {failure : Failure}
    (h : startedOperation? response = .error failure) : failure.isNotFound = false := by
  rw [startedOperation?] at h
  split at h
  · exact not_isNotFound_parseUrl (eq_error_of_formed h)
  · split at h
    · exact not_isNotFound_parseUrl (eq_error_of_formed h)
    · cases h
  · cases h

lemma settle_eq_ok {r : Except Failure Unit} :
    settle () r = .ok () ↔ r = .ok () ∨ IsAbsence r := by
  cases r with
  | ok u => simp [settle]
  | error failure => by_cases hf : failure.isNotFound = true <;> simp [settle, hf]

lemma isPassed_of_confirms {response : Http.Response} {t : Trace World}
    (h : Confirms response t) : Http.isRetryable response.status = false := by
  rcases h with hstatus | ⟨hsuccess, _⟩
  · rw [hstatus]
    rfl
  · exact not_isRetryable_of_isSuccess hsuccess

/-- A deletion is settled by its answer, or goes on with the operation that the answer started. -/
lemma yields_await {client : Client} {bearer : String} {token' : Option String} {v : Trace World}
    {answer : Except Failure Http.Response} {r : Except Failure Unit}
    (hlost : ∀ failure, answer = .error failure → failure = .transport)
    (h : (resume client.await (judge answer, some bearer)).Yields v (r, token')) :
    (v = [] ∧ (settle () r = .ok () ↔ ∃ response, answer = .ok response ∧ Settles response)) ∨
      ∃ response operation, answer = .ok response ∧ response.isSuccess = true ∧
        response.status = 202 ∧ startedOperation? response = .ok (some operation) ∧
        ((client.follow operation).runFrom (some bearer)).Yields v (r, token') := by
  cases answer with
  | error failure =>
    cases hlost failure rfl
    obtain ⟨rfl, ⟨⟩⟩ := yields_done_iff.1 h
    exact .inl ⟨rfl, by simp [settle, Failure.isNotFound]⟩
  | ok response =>
    by_cases hsuccess : response.isSuccess = true
    swap
    · rw [judge, Except.bind, if_neg hsuccess] at h
      obtain ⟨rfl, ⟨⟩⟩ := yields_done_iff.1 h
      exact .inl ⟨rfl, by simp [Settles, settle_eq_ok, isNotFound_failureOf, hsuccess]⟩
    rw [judge, Except.bind, if_pos hsuccess, resume] at h
    by_cases haccepted : response.status = 202
    swap
    · rw [runFrom_await_of_ne haccepted] at h
      obtain ⟨rfl, ⟨⟩⟩ := yields_done_iff.1 h
      exact .inl ⟨rfl, by simp [Settles, settle, hsuccess, haccepted]⟩
    rw [runFrom_await_of_eq haccepted] at h
    rcases hstarted : startedOperation? response with failure | _ | operation
    · have hfailure := not_isNotFound_startedOperation? hstarted
      rw [hstarted] at h
      obtain ⟨rfl, ⟨⟩⟩ := yields_done_iff.1 h
      exact .inl ⟨rfl, by simp [Settles, settle, hfailure, haccepted, hstarted]⟩
    · rw [hstarted] at h
      obtain ⟨rfl, ⟨⟩⟩ := yields_done_iff.1 h
      exact .inl ⟨rfl, by simp [Settles, settle, hsuccess, hstarted]⟩
    · rw [hstarted] at h
      exact .inr ⟨response, operation, rfl, hsuccess, haccepted, hstarted, h⟩

section Hearing

variable {client : Client} {path version : String} {token token' : Option String}
  {t u v : Trace World} {url : Url} {answer : Except Failure Http.Response}

/-- A resource is taken for deleted exactly if that was confirmed or presumed, never both. -/
structure Hearing (client : Client) (path version : String) (t : Trace World)
    (outcome : Except Failure Unit) : Prop where
  settled : settle () outcome = .ok () ↔ IsConfirmed client path version t ∨ IsPresumed client t
  apart : IsPresumed client t → ¬ IsConfirmed client path version t

/-- A trace in which one deletion was sent, with what came of it. -/
structure Ordered (client : Client) (url : Url) (answer : Except Failure Http.Response)
    (t : Trace World) : Prop where
  orders : ∀ url' response, Http.isRetryable response.status = false →
    (Sent (order url') response t ↔ url' = url ∧ answer = .ok response)
  tokens : ¬ client.credential.NotFound t

lemma Ordered.isConfirmed_iff (h : Ordered client url answer t)
    (hurl : Client.resourceUrl client.base path version = .ok url) :
    IsConfirmed client path version t ↔
      ∃ response, answer = .ok response ∧ Confirms response t := by
  constructor
  · rintro ⟨url', response, _, hsent, hconfirms⟩
    exact ⟨response, ((h.orders url' response (isPassed_of_confirms hconfirms)).1 hsent).2,
      hconfirms⟩
  · rintro ⟨response, hanswer, hconfirms⟩
    exact ⟨url, response, hurl,
      (h.orders url response (isPassed_of_confirms hconfirms)).2 ⟨rfl, hanswer⟩, hconfirms⟩

lemma Ordered.isPresumed_iff (h : Ordered client url answer t) :
    IsPresumed client t ↔
      (∃ (operation : Operation.Follow) (response : Http.Response),
        Sent operation.poll response t ∧ response.status = 404) ∨
      ∃ response, answer = .ok response ∧ IsOverlooked response := by
  constructor
  · rintro (hmissing | ⟨hsent, hstatus⟩ | ⟨hsent, hresponse⟩)
    · exact absurd hmissing h.tokens
    · exact .inl ⟨_, _, hsent, hstatus⟩
    · have hpassed := not_isRetryable_of_isSuccess hresponse.1
      exact .inr ⟨_, ((h.orders _ _ hpassed).1 hsent).2, hresponse⟩
  · rintro (⟨operation, response, hsent, hstatus⟩ | ⟨response, hanswer, hresponse⟩)
    · exact .operation hsent hstatus
    · have hpassed := not_isRetryable_of_isSuccess hresponse.1
      exact .overlooked ((h.orders url response hpassed).2 ⟨rfl, hanswer⟩) hresponse

/-- A trace in which a deletion was sent. -/
lemma ordered_of_sending {bearer : String} {start : Nat}
    (h : client.credential.Explains t (.ok bearer)) (hu : Sending (order url) bearer u answer) :
    Ordered client url answer (t ++ ⟨.clock, start⟩ :: u) := by
  refine ⟨?_, hu.tokens h⟩
  intro url' response hpassed
  rw [sent_append, or_iff_right (not_sent_of_explains h), sent_cons (by rintro _ ⟨⟩)]
  constructor
  · intro hsent
    cases order_injective (hu.eq_of_sent hsent)
    exact ⟨rfl, hu.heard response hsent hpassed⟩
  · rintro ⟨rfl, hanswer⟩
    exact hu.told response hanswer

lemma not_sent_poll_of_sending {bearer : String} {start : Nat} {operation : Operation.Follow}
    {response : Http.Response} (h : client.credential.Explains t (.ok bearer))
    (hu : Sending (order url) bearer u answer) :
    ¬ Sent operation.poll response (t ++ ⟨.clock, start⟩ :: u) := by
  rw [sent_append, sent_cons (by rintro _ ⟨⟩)]
  rintro (hsent | hsent)
  · exact not_sent_of_explains h hsent
  · exact order_ne_poll (hu.eq_of_sent hsent).symm

/-- Polls are no deletions. -/
lemma Ordered.append {operation : Operation.Follow} {hasEnded isAbsent : Prop}
    (h : Ordered client url answer t) (hv : Polling client operation v hasEnded isAbsent) :
    Ordered client url answer (t ++ v) := by
  constructor
  · intro url' response hpassed
    rw [sent_append, or_iff_left fun hsent => order_ne_poll (hv.requests _ _ hsent)]
    exact h.orders url' response hpassed
  · rw [notFound_append]
    exact fun hmissing => hmissing.elim h.tokens hv.tokens

/-- The outcome of a deletion that was not followed. -/
lemma hearing_of_unfollowed {outcome : Except Failure Unit} (h : Ordered client url answer t)
    (hurl : Client.resourceUrl client.base path version = .ok url)
    (hpolls : ∀ (operation : Operation.Follow) (response : Http.Response),
      ¬ Sent operation.poll response t)
    (houtcome : settle () outcome = .ok () ↔ ∃ response, answer = .ok response ∧ Settles response) :
    Hearing client path version t outcome := by
  have hconfirms : ∀ response, Confirms response t ↔ response.status = 404 ∨
      response.isSuccess = true ∧ startedOperation? response = .ok none := by
    intro response
    have hunfollowed : ∀ operation, ¬ WasFollowed operation t :=
      fun operation ⟨response, hsent, _⟩ => hpolls operation response hsent
    simp [Confirms, hunfollowed]
  have hpresumed : IsPresumed client t ↔ ∃ response, answer = .ok response ∧
      IsOverlooked response := by
    rw [h.isPresumed_iff, or_iff_right]
    rintro ⟨operation, response, hsent, _⟩
    exact hpolls operation response hsent
  constructor
  · rw [houtcome, h.isConfirmed_iff hurl, hpresumed, ← exists_or]
    refine exists_congr fun response => ?_
    rw [hconfirms, IsOverlooked, Settles, ← and_or_left]
    refine and_congr_right fun _ => ?_
    by_cases hstarted : startedOperation? response = .ok none <;> simp [hstarted]
  · rw [hpresumed, h.isConfirmed_iff hurl]
    rintro ⟨response, hanswer, hsuccess, _, hstarted⟩ ⟨response', hanswer', hresponse'⟩
    cases hanswer.symm.trans hanswer'
    rcases (hconfirms response).1 hresponse' with hstatus | ⟨_, hnone⟩
    · rw [not_isSuccess_of_status hstatus] at hsuccess
      cases hsuccess
    · exact hstarted hnone

/-- The outcome of a deletion whose operation was followed. -/
lemma hearing_of_followed {operation : Operation.Follow} {response : Http.Response}
    {outcome : Except Failure Unit} (h : Ordered client url (.ok response) t)
    (hurl : Client.resourceUrl client.base path version = .ok url)
    (hpolls : ∀ (operation : Operation.Follow) (response : Http.Response),
      ¬ Sent operation.poll response t)
    (hsuccess : response.isSuccess = true) (haccepted : response.status = 202)
    (hstarted : startedOperation? response = .ok (some operation))
    (hv : Polling client operation v (outcome = .ok ()) (IsAbsence outcome)) :
    Hearing client path version (t ++ v) outcome := by
  have hboth := h.append hv
  have hconfirmed : IsConfirmed client path version (t ++ v) ↔ outcome = .ok () := by
    have hfollowed : WasFollowed operation (t ++ v) ↔ WasFollowed operation v := by
      simp only [WasFollowed, sent_append, hpolls, false_or]
    have hnone : response.status ≠ 404 := by
      rw [haccepted]
      decide
    rw [hboth.isConfirmed_iff hurl]
    simp [Confirms, hnone, hsuccess, hstarted, hfollowed, hv.ended]
  have hpresumed : IsPresumed client (t ++ v) ↔ IsAbsence outcome := by
    have hoverlooked : ¬ IsOverlooked response := fun ho => ho.2.1 haccepted
    rw [hboth.isPresumed_iff, hv.absent, or_iff_left (by simpa using hoverlooked)]
    simp only [sent_append, hpolls, false_or]
    constructor
    · rintro ⟨operation', response', hsent, hstatus⟩
      exact ⟨response', hv.requests _ _ hsent ▸ hsent, hstatus⟩
    · rintro ⟨response', hsent, hstatus⟩
      exact ⟨operation, response', hsent, hstatus⟩
  constructor
  · rw [settle_eq_ok, hconfirmed, hpresumed]
  · rw [hpresumed, hconfirmed]
    rintro habsence rfl
    exact isAbsence_ok habsence

/-- A deletion without a URL or without a token is not sent. -/
lemma hearing_of_unsent {failure : Failure}
    (hsent : ∀ (request : Http.Request) (response : Http.Response), ¬ Sent request response t)
    (htoken : failure.isNotFound = true ↔ client.credential.NotFound t) :
    Hearing client path version t (.error failure) := by
  have hconfirmed : ¬ IsConfirmed client path version t := by
    rintro ⟨url, response, _, h, _⟩
    exact hsent _ _ h
  refine ⟨?_, fun _ => hconfirmed⟩
  rw [settle_eq_ok, or_iff_right (by rintro ⟨⟩), isAbsence_error, htoken, or_iff_right hconfirmed]
  constructor
  · exact .token
  · rintro (hmissing | ⟨h, _⟩ | ⟨h, _⟩)
    · exact hmissing
    · exact absurd h (hsent _ _)
    · exact absurd h (hsent _ _)

lemma hearing_of_sending {bearer : String} {start : Nat} {r : Except Failure Unit}
    (hurl : Client.resourceUrl client.base path version = .ok url)
    (h : client.credential.Explains t (.ok bearer)) (hu : Sending (order url) bearer u answer)
    (hv : (resume client.await (judge answer, some bearer)).Yields v (r, token')) :
    Hearing client path version (t ++ ⟨.clock, start⟩ :: u ++ v) r := by
  have hordered : Ordered client url answer (t ++ ⟨.clock, start⟩ :: u) :=
    ordered_of_sending h hu
  have hpolls : ∀ (operation : Operation.Follow) (response : Http.Response),
      ¬ Sent operation.poll response (t ++ ⟨.clock, start⟩ :: u) :=
    fun _ _ => not_sent_poll_of_sending h hu
  rcases yields_await hu.lost hv with
    ⟨rfl, hsettled⟩ | ⟨response, operation, rfl, hsuccess, haccepted, hstarted, hfollow⟩
  · rw [List.append_nil]
    exact hearing_of_unfollowed hordered hurl hpolls hsettled
  · exact hearing_of_followed hordered hurl hpolls hsuccess haccepted hstarted
      (polling_follow rfl hfollow)

/-- What a deletion returns is explained by the answers. -/
theorem hearing_of_yields {r : Except Failure Unit}
    (h : ((client.deleteResource path version).runFrom token).Yields t (r, token')) :
    Hearing client path version t r := by
  rw [runFrom_deleteResource] at h
  cases hurl : Client.resourceUrl client.base path version with
  | error failure =>
    rw [hurl] at h
    obtain ⟨rfl, ⟨⟩⟩ := yields_done_iff.1 h
    apply hearing_of_unsent
    · simp [Sent]
    · simp [Credential.NotFound, not_isNotFound_resourceUrl hurl]
  | ok url =>
    simp only [hurl] at h
    obtain ⟨t₁, v, ⟨answer, current⟩, rfl, hsend, hrest⟩ := yields_bind_iff.1 h
    rcases yields_send hsend with
      ⟨failure, rfl, hexplains, _⟩ |
      ⟨t₁, u, start, bearer, answer, rfl, hexplains, hsending, rfl, rfl⟩
    · obtain ⟨rfl, ⟨⟩⟩ := yields_done_iff.1 hrest
      rw [List.append_nil]
      exact hearing_of_unsent (fun _ _ => not_sent_of_explains hexplains)
        (isAbsence_error.symm.trans hexplains.2)
    · exact hearing_of_sending hurl hexplains hsending hrest

end Hearing

end BucketOperator.Azure
