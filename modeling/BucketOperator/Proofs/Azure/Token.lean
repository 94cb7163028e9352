import BucketOperator.Proofs.Azure.Session

/-!
# Acquiring tokens

What the world is asked for a token. A credential fails with the absence of something exactly when
the token endpoint has answered with status 404, for which it may have reasons of its own.
-/

namespace BucketOperator.Azure

open Program (yields_done_iff yields_ask_iff)

/-- The requests by which a token is acquired. -/
def Credential.Asks : Credential → Http.Request → Prop
  | .fixed _, _ => False
  | .managed endpoint clientId, request => metadataRequest endpoint clientId = .ok request
  | .clientSecret authority tenantId clientId secret, request =>
    secretRequest authority tenantId clientId secret = .ok request
  | .workload authority tenantId clientId _, request =>
    ∃ assertion, assertionRequest authority tenantId clientId assertion = .ok request

/-- A request for a token was answered with status 404. -/
def Credential.NotFound (credential : Credential) (t : Trace World) : Prop :=
  ∃ (request : Http.Request) (response : Http.Response), credential.Asks request ∧
    response.status = 404 ∧ (⟨.http request, some response⟩ : Exchange World) ∈ t

variable {α β : Type} {credential : Credential} {t : Trace World} {r : Except Failure String}

lemma eq_error_of_formed {x : Except Failure α} {form : α → β} {failure : Failure}
    (h : (do let a ← x; return form a) = .error failure) : x = .error failure := by
  cases x with
  | ok a => cases h
  | error reason =>
    cases h
    rfl

lemma exists_of_formed {x : Except Failure α} {form : α → β} {b : β}
    (h : (do let a ← x; return form a) = .ok b) : ∃ a, form a = b := by
  cases x with
  | ok a =>
    cases h
    exact ⟨a, rfl⟩
  | error reason => cases h

/-- A token is asked for without one. -/
lemma Credential.Asks.lookup_authorization {request : Http.Request}
    (h : credential.Asks request) : request.headers.lookup "authorization" = none := by
  cases credential with
  | fixed _ => exact h.elim
  | managed endpoint clientId =>
    obtain ⟨base, rfl⟩ := exists_of_formed h
    rfl
  | clientSecret authority tenantId clientId secret =>
    obtain ⟨base, rfl⟩ := exists_of_formed h
    rfl
  | workload authority tenantId clientId tokenFile =>
    obtain ⟨assertion, h⟩ := h
    obtain ⟨base, rfl⟩ := exists_of_formed h
    rfl

/-- The outcome of a request for a token. -/
def tokenOf : Http.Reply → Except Failure String
  | none => .error .transport
  | some response =>
    if response.isSuccess then
      match (Json.Tree.parse? response.body).bind readToken with
      | some token => .ok token
      | none => .error .transport
    else .error (failureOf response)

lemma requestToken_ok (request : Http.Request) :
    requestToken (.ok request) = .ask (.http request) fun reply => .done (tokenOf reply) := by
  change Program.ask _ _ = Program.ask _ _
  congr 1
  funext (reply : Http.Reply)
  cases reply with
  | none => rfl
  | some response =>
    change (if response.isSuccess = true then
      match (Json.Tree.parse? response.body).bind readToken with
      | some token => Program.done (Except.ok token)
      | none => .done (.error Failure.transport)
      else .done (.error (failureOf response))) = _
    simp only [tokenOf]
    split
    · split <;> rfl
    · rfl

lemma isAbsence_tokenOf {reply : Http.Reply} :
    IsAbsence (tokenOf reply) ↔ ∃ response, reply = some response ∧ response.status = 404 := by
  cases reply with
  | none => simp [tokenOf, Failure.isNotFound]
  | some response =>
    simp only [tokenOf, Option.some.injEq, exists_eq_left']
    split
    next hs =>
      have hne : response.status ≠ 404 := by
        intro h
        rw [not_isSuccess_of_status h] at hs
        cases hs
      split <;> simp [hne, Failure.isNotFound]
    next => rw [isAbsence_error, isNotFound_failureOf]

/-- Only requests for a token are made in a trace, and it ends with an absence exactly if one of
them was answered with status 404. -/
def Credential.Explains (credential : Credential) (t : Trace World)
    (r : Except Failure String) : Prop :=
  (∀ (request : Http.Request) (reply : Http.Reply),
    (⟨.http request, reply⟩ : Exchange World) ∈ t → credential.Asks request) ∧
  (IsAbsence r ↔ credential.NotFound t)

lemma explains_requestToken {request : Except Failure Http.Request}
    (hasks : ∀ sent, request = .ok sent → credential.Asks sent)
    (herror : ∀ failure, request = .error failure → failure.isNotFound = false)
    (h : (requestToken request).Yields t r) : credential.Explains t r := by
  cases request with
  | error failure =>
    obtain ⟨rfl, rfl⟩ := yields_done_iff.1 h
    simp [Credential.Explains, Credential.NotFound, herror failure rfl]
  | ok sent =>
    rw [requestToken_ok] at h
    obtain ⟨reply, _, rfl, hdone⟩ := yields_ask_iff.1 h
    obtain ⟨rfl, rfl⟩ := yields_done_iff.1 hdone
    refine ⟨?_, isAbsence_tokenOf.trans ⟨?_, ?_⟩⟩
    · intro request reply' hmem
      cases List.mem_singleton.1 hmem
      exact hasks sent rfl
    · rintro ⟨response, rfl, hstatus⟩
      exact ⟨sent, response, hasks sent rfl, hstatus, List.mem_singleton.2 rfl⟩
    · rintro ⟨request, response, _, hstatus, hmem⟩
      cases List.mem_singleton.1 hmem
      exact ⟨response, rfl, hstatus⟩

lemma token_workload (authority tenantId clientId tokenFile : String) :
    (Credential.workload authority tenantId clientId tokenFile).token =
      .ask (.readFile tokenFile) fun (content : Except String String) =>
        match content with
        | .ok assertion => requestToken (assertionRequest authority tenantId clientId assertion)
        | .error reason => .done (.error (.tokenFile tokenFile reason)) := by
  change Program.ask _ _ = Program.ask _ _
  congr 1

/-- Reading a file before is no matter. -/
lemma Credential.Explains.readFile {path : String} {content : Except String String}
    (h : credential.Explains t r) :
    credential.Explains (⟨.readFile path, content⟩ :: t) r := by
  refine ⟨?_, h.2.trans ⟨?_, ?_⟩⟩
  · intro request reply hmem
    rcases List.mem_cons.1 hmem with hfirst | hmem
    · cases hfirst
    · exact h.1 request reply hmem
  · rintro ⟨request, response, hasks, hstatus, hmem⟩
    exact ⟨request, response, hasks, hstatus, List.mem_cons_of_mem _ hmem⟩
  · rintro ⟨request, response, hasks, hstatus, hmem⟩
    rcases List.mem_cons.1 hmem with hfirst | hmem
    · cases hfirst
    · exact ⟨request, response, hasks, hstatus, hmem⟩

/-- What a credential asks, and when it reports that something is absent. -/
theorem explains_token (h : credential.token.Yields t r) : credential.Explains t r := by
  cases credential with
  | fixed token =>
    obtain ⟨rfl, rfl⟩ := yields_done_iff.1 h
    simp [Credential.Explains, Credential.NotFound]
  | managed endpoint clientId =>
    exact explains_requestToken (fun _ hsent => hsent)
      (fun _ hfailure => not_isNotFound_parseUrl (eq_error_of_formed hfailure)) h
  | clientSecret authority tenantId clientId secret =>
    exact explains_requestToken (fun _ hsent => hsent)
      (fun _ hfailure => not_isNotFound_parseUrl (eq_error_of_formed hfailure)) h
  | workload authority tenantId clientId tokenFile =>
    rw [token_workload] at h
    obtain ⟨content, u, rfl, hrest⟩ := yields_ask_iff.1 h
    refine Credential.Explains.readFile ?_
    split at hrest
    next assertion =>
      exact explains_requestToken (fun _ hsent => ⟨assertion, hsent⟩)
        (fun _ hfailure => not_isNotFound_parseUrl (eq_error_of_formed hfailure)) hrest
    next reason =>
      obtain ⟨rfl, rfl⟩ := yields_done_iff.1 hrest
      simp [Credential.Explains, Credential.NotFound, Failure.isNotFound]

end BucketOperator.Azure
