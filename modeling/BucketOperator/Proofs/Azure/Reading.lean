import BucketOperator.Proofs.Azure.Sending

/-!
# Reading a resource

What the world was asked, and what it answered, when a client of Resource Manager has read a
resource: the token was acquired unless the client had one, and the request was repeated while its
answers asked for that. An absence is told by an answer with status 404, given either to the
request for the token or to the one for the resource.
-/

namespace BucketOperator.Azure

open Program (yields_bind_iff yields_done_iff yields_ask_iff)

/-! ### Asking for a resource -/

/-- The request that a client makes for a resource. -/
def fetch (url : Url) (token : String) : Http.Request :=
  ⟨.get, url, [("authorization", "Bearer " ++ token)], none⟩

/-- A request for the resource at a URL was answered. -/
def Fetched (url : Url) (response : Http.Response) (t : Trace World) : Prop :=
  ∃ token, (⟨.http (fetch url token), some response⟩ : Exchange World) ∈ t

/-- A request for a resource is one that is sent with a token. -/
lemma fetched_iff_sent {url : Url} {response : Http.Response} {t : Trace World} :
    Fetched url response t ↔ Sent ⟨.get, url, [], none⟩ response t := Iff.rfl

lemma fetched_append {url : Url} {response : Http.Response} {t u : Trace World} :
    Fetched url response (t ++ u) ↔ Fetched url response t ∨ Fetched url response u := by
  rw [fetched_iff_sent, fetched_iff_sent, fetched_iff_sent, sent_append]

/-! ### Reading a resource -/

/-- Whether a resource can be read from an answer. -/
def IsReadable (response : Http.Response) : Prop :=
  response.isSuccess = true ∧ ∃ value, bodyOf response = .ok value

section Reading

variable {client : Client} {credential : Credential} {path version : String}
  {token token' : Option String} {t u : Trace World}

lemma not_fetched_nil {url : Url} {response : Http.Response} : ¬ Fetched url response [] := by
  simp [Fetched]

lemma not_fetched_of_explains {r : Except Failure String} (h : credential.Explains t r)
    {url : Url} {response : Http.Response} : ¬ Fetched url response t := by
  rw [fetched_iff_sent]
  exact not_sent_of_explains h

/-- What reading a resource has asked, and what its outcome tells. -/
structure Reading (client : Client) (path version : String) (token : Option String)
    (t : Trace World) (outcome : Except Failure Json) (token' : Option String) : Prop where
  address : ∀ url response, Fetched url response t →
    Client.resourceUrl client.base path version = .ok url
  absent : IsAbsence outcome ↔ client.credential.NotFound t ∨
    ∃ url response, Fetched url response t ∧ response.status = 404
  present : (∃ value, outcome = .ok value) ↔
    ∃ url response, Fetched url response t ∧ IsReadable response
  apart : client.credential.NotFound t → ∀ url response, ¬ Fetched url response t
  kept : (∃ value, outcome = .ok value) → token'.isSome = true
  known : token.isSome = true → ¬ client.credential.NotFound t
  once : t.countP isGranted ≤ 1

lemma exists_read_iff {answer : Except Failure Http.Response} :
    (∃ value, (judge answer).bind bodyOf = .ok value) ↔
      ∃ response, answer = .ok response ∧ IsReadable response := by
  cases answer with
  | error failure => simp [judge, Except.bind]
  | ok response =>
    simp only [judge, Except.bind, Except.ok.injEq, exists_eq_left', IsReadable]
    by_cases hs : response.isSuccess = true <;> simp [hs]

lemma reading_of_no_token {failure : Failure} (h : client.credential.Explains t (.error failure))
    (hknown : token.isSome = true → t = []) :
    Reading client path version token t (.error failure) token' := by
  have hnone : ∀ url response, ¬ Fetched url response t := fun _ _ => not_fetched_of_explains h
  constructor
  · intro url response hfetched
    exact absurd hfetched (hnone url response)
  · have habsence : IsAbsence (.error failure : Except Failure Json) ↔
        client.credential.NotFound t :=
      (isAbsence_error.trans isAbsence_error.symm).trans h.2
    simp only [habsence, hnone, false_and, exists_false, or_false]
  · simp only [hnone, false_and, exists_false, reduceCtorEq]
  · exact fun _ => hnone
  · rintro ⟨value, ⟨⟩⟩
  · intro htoken
    cases hknown htoken
    simp [Credential.NotFound]
  · rw [countP_isGranted_of_explains h]
    exact Nat.zero_le 1

lemma reading_of_token {url : Url} {bearer : String} {start : Nat}
    {answer : Except Failure Http.Response}
    (hurl : Client.resourceUrl client.base path version = .ok url)
    (h : client.credential.Explains t (.ok bearer))
    (hu : Sending ⟨.get, url, [], none⟩ bearer u answer) :
    Reading client path version token (t ++ ⟨.clock, start⟩ :: u) ((judge answer).bind bodyOf)
      (some bearer) := by
  have hfetched : ∀ url response,
      Fetched url response (t ++ ⟨.clock, start⟩ :: u) ↔ Fetched url response u := by
    intro url response
    rw [fetched_append, or_iff_right (not_fetched_of_explains h)]
    rw [fetched_iff_sent, fetched_iff_sent]
    exact sent_cons (by rintro _ ⟨⟩)
  have hnotFound : ¬ client.credential.NotFound (t ++ ⟨.clock, start⟩ :: u) := hu.tokens h
  have hanswer : ∀ response, Http.isRetryable response.status = false →
      (answer = .ok response ↔ ∃ url, Fetched url response u) := by
    intro response hresponse
    constructor
    · exact fun hr => ⟨url, hu.told response hr⟩
    · rintro ⟨url', bearer', hmem⟩
      have hrequest := hu.requests _ _ hmem
      rw [hrequest] at hmem
      exact hu.heard response ⟨bearer, hmem⟩ hresponse
  constructor
  · rintro url' response hfetched'
    obtain ⟨bearer', hmem⟩ := (hfetched url' response).1 hfetched'
    have hrequest := hu.requests _ _ hmem
    simp only [fetch, bearing, Http.Request.mk.injEq] at hrequest
    rw [hrequest.2.1]
    exact hurl
  · rw [isAbsence_judge_bind hu.lost fun _ _ => not_isNotFound_bodyOf, or_iff_right hnotFound]
    simp only [hfetched]
    constructor
    · rintro ⟨response, hr, hstatus⟩
      exact ⟨url, response, hu.told response hr, hstatus⟩
    · rintro ⟨url', response, hf, hstatus⟩
      have hretry : Http.isRetryable response.status = false := by
        rw [hstatus]
        rfl
      exact ⟨response, (hanswer response hretry).2 ⟨url', hf⟩, hstatus⟩
  · rw [exists_read_iff]
    simp only [hfetched]
    constructor
    · rintro ⟨response, hr, hreadable⟩
      exact ⟨url, response, hu.told response hr, hreadable⟩
    · rintro ⟨url', response, hf, hreadable⟩
      have hretry := not_isRetryable_of_isSuccess hreadable.1
      exact ⟨response, (hanswer response hretry).2 ⟨url', hf⟩, hreadable⟩
  · exact fun hmissing => absurd hmissing hnotFound
  · exact fun _ => rfl
  · exact fun _ => hnotFound
  · have honce := hu.once
    rw [List.countP_append, countP_isGranted_of_explains h,
      List.countP_cons_of_neg (by simp [isGranted])]
    omega

/-- Reading a resource is explained by the answers to its two requests. -/
theorem reading_of_yields {outcome : Except Failure Json}
    (h : ((client.getResource path version).runFrom token).Yields t (outcome, token')) :
    Reading client path version token t outcome token' := by
  rw [runFrom_getResource] at h
  cases hurl : Client.resourceUrl client.base path version with
  | error failure =>
    rw [hurl] at h
    obtain ⟨rfl, ⟨⟩⟩ := yields_done_iff.1 h
    constructor <;>
      simp [Credential.NotFound, not_fetched_nil, not_isNotFound_resourceUrl hurl]
  | ok url =>
    simp only [hurl] at h
    obtain ⟨r, hsend, rfl⟩ := yields_read_iff.1 h
    rcases yields_send hsend with
      ⟨failure, rfl, hexplains, hknown⟩ |
      ⟨t₁, u, start, bearer, answer, rfl, hexplains, hfetching, rfl, rfl⟩
    · exact reading_of_no_token hexplains hknown
    · exact reading_of_token hurl hexplains hfetching

end Reading

/-! ### Readings that are cut -/

/-- Whether an answer asked for another attempt. -/
def isPassing : Exchange World → Bool
  | ⟨.http _, reply⟩ => (reply : Http.Reply).any fun response => Http.isRetryable response.status
  | _ => false

section Cuts

variable {client : Client} {path version : String} {token : Option String} {t : Trace World}

lemma not_requestToken_cut {request : Except Failure Http.Request} :
    ¬ (requestToken request).After t .cut := by
  cases request with
  | error failure => exact Program.not_done_after_cut
  | ok request =>
    rw [requestToken_ok, Program.ask_after_cut_iff]
    rintro ⟨_, _, _, h⟩
    exact Program.not_done_after_cut h

/-- Acquiring a token comes to an end. -/
lemma not_token_cut {credential : Credential} : ¬ credential.token.After t .cut := by
  cases credential with
  | fixed token => exact Program.not_done_after_cut
  | managed endpoint clientId =>
    rw [Credential.token]
    exact not_requestToken_cut
  | clientSecret authority tenantId clientId secret =>
    rw [Credential.token]
    exact not_requestToken_cut
  | workload authority tenantId clientId tokenFile =>
    intro h
    rw [token_workload] at h
    obtain ⟨content, _, _, hrest⟩ := Program.ask_after_cut_iff.1 h
    split at hrest
    · exact not_requestToken_cut hrest
    · exact Program.not_done_after_cut hrest

lemma not_bearer_cut : ¬ (client.bearer.runFrom token).After t .cut := by
  cases token with
  | some bearer => exact Program.not_done_after_cut
  | none =>
    rw [runFrom_bearer_none, Program.bind_after_cut_iff]
    rintro (h | ⟨_, _, acquired, _, _, h⟩)
    · exact not_token_cut h
    · cases acquired <;> exact Program.not_done_after_cut h

lemma not_attempt_cut {bearer : String} {url : Url} :
    ¬ (Client.attempt bearer ⟨.get, url, [], none⟩).After t .cut := by
  rw [attempt_eq]
  split
  · rw [Program.ask_after_cut_iff]
    rintro ⟨_, _, _, h⟩
    exact Program.not_done_after_cut h
  · exact Program.not_done_after_cut

lemma countP_isPassing_of_asksAgain {bearer : String} {url : Url}
    {r : Except Failure Http.Response}
    (h : (Client.attempt bearer ⟨.get, url, [], none⟩).Yields t r)
    (hr : Client.asksAgain r = true) : 1 ≤ t.countP isPassing := by
  rcases yields_attempt h with ⟨rfl, rfl⟩ | ⟨reply, rfl, rfl⟩
  · cases hr
  · cases reply with
    | none => cases hr
    | some response =>
      rw [Nat.one_le_iff_ne_zero, Ne, List.countP_eq_zero]
      intro hnone
      exact hnone _ (List.mem_singleton.2 rfl) hr

/-- Reading a resource is only cut when as many attempts as are allowed were answered with a
passing trouble. -/
theorem patience_le_of_getResource_cut (hretries : client.retries = Backoff.forCalls)
    (h : ((client.getResource path version).runFrom token).After t .cut) :
    client.patience ≤ t.countP isPassing := by
  have hbackoff : Retry.IsForCalls client.retries := by
    rw [hretries]
    exact Retry.isForCalls_forCalls
  rw [runFrom_getResource] at h
  split at h
  · exact absurd h Program.not_done_after_cut
  next url =>
    rcases Program.bind_after_cut_iff.1 h with h | ⟨_, _, ⟨r, current⟩, _, _, h⟩
    · rw [runFrom_send, Program.bind_after_cut_iff] at h
      rcases h with h | ⟨t₁, t₂, ⟨acquired, current⟩, rfl, _, h⟩
      · exact absurd h not_bearer_cut
      · cases acquired with
        | error failure => exact absurd h Program.not_done_after_cut
        | ok bearer =>
          rw [resume, runFrom_ofOutcome, Program.bind_assoc, Program.bind_after_cut_iff] at h
          rcases h with h | ⟨_, _, _, _, _, h⟩
          · have hcount : client.patience ≤ t₂.countP isPassing := by
              refine Retry.le_countP_of_persist_cut Retry.endless_isForCalls ?_ ?_ hbackoff h
              · exact fun _ => not_attempt_cut
              · exact fun _ _ => countP_isPassing_of_asksAgain
            rw [List.countP_append]
            exact Nat.le_trans hcount (Nat.le_add_left _ _)
          · exact absurd h Program.not_done_after_cut
    · cases r with
      | error failure => exact absurd h Program.not_done_after_cut
      | ok response =>
        rw [resume, runFrom_ofExcept] at h
        exact absurd h Program.not_done_after_cut

end Cuts

end BucketOperator.Azure
