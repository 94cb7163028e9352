import BucketOperator.Proofs.Azure.Changing

/-!
# A management policy in a store

A store keeps at most one management policy at a place. Reading shows the policy or that there is
none, a creation that is granted replaces it, and a deletion that is granted removes it. What was
not granted may have had its effect all the same. A client that has a token makes the calls of the
adapter so that they do to the policy what they say.
-/

namespace BucketOperator.Azure

open Program (Returns)
open Retry (EndsAttempt Idles)

/-- What an answer to reading a policy shows. -/
structure Shows (policy : Option Json) (response : Http.Response) : Prop where
  found : response.isSuccess = true → ∃ value, policy = some value ∧ Reads response (.ok value)
  absent : response.status = 404 → policy = none

/-- A store that keeps a management policy at a place. -/
def storing (place : Url) : Behaviour World (Option Json)
  | policy, .http request, (reply : Http.Reply), policy' =>
    if request.url = place then
      match request.method, request.payload with
      | .get, _ => policy' = policy ∧ ∀ response, reply = some response → Shows policy response
      | .put, some (.json body) => (policy' = policy ∨ policy' = some body) ∧
        ∀ response, reply = some response → response.isSuccess = true → policy' = some body
      | .delete, _ => (policy' = policy ∨ policy' = none) ∧
        ∀ response, reply = some response → response.isSuccess = true ∨ response.status = 404 →
          policy' = none
      | _, _ => policy' = policy
    else policy' = policy
  | policy, _, _, policy' => policy' = policy

/-- What the calls of the adapter that are about a policy do to it. -/
def governing : Behaviour Api (Option Json)
  | policy, .get .., (r : Except Failure Json), policy' => policy' = policy ∧
    (∀ value, r = .ok value → policy = some value) ∧ (IsAbsence r → policy = none)
  | policy, .put _ _ body, (r : Except Failure Json), policy' =>
    (policy' = policy ∨ policy' = some body) ∧ ∀ value, r = .ok value → policy' = some body
  | policy, .delete .., (r : Except Failure Unit), policy' =>
    (policy' = policy ∨ policy' = none) ∧ (r = .ok () ∨ IsAbsence r → policy' = none)
  | _, _, _, _ => True

/-- Calls about the resource at a path. One that changes it is made only where that is allowed. -/
def IsAbout (path version : String) (allowed : Prop) : Call → Prop
  | .get p v => p = path ∧ v = version
  | .put p v _ => p = path ∧ v = version ∧ allowed
  | .delete p v => p = path ∧ v = version ∧ allowed
  | _ => False

/-- An answer that is judged to tell of an absence has status 404. -/
lemma exists_of_isAbsence_judge {reply : Http.Reply} (h : IsAbsence (judge (answerOf reply))) :
    ∃ response, reply = some response ∧ response.status = 404 := by
  cases reply with
  | none =>
    obtain ⟨_, hfailure, hnotFound⟩ := h
    cases hfailure
    cases hnotFound
  | some response =>
    refine ⟨response, rfl, ?_⟩
    rw [answerOf, judge, Except.bind] at h
    split at h
    · exact absurd h isAbsence_ok
    · exact isNotFound_failureOf.1 (isAbsence_error.1 h)

/-- A failed reading of an answer tells of no absence. -/
lemma isAbsence_bind_bodyOf {r : Except Failure Http.Response}
    (h : IsAbsence (r.bind bodyOf)) : IsAbsence r := by
  cases r with
  | error failure =>
    obtain ⟨_, ⟨⟩, hnotFound⟩ := h
    exact isAbsence_error.2 hnotFound
  | ok response =>
    obtain ⟨failure, hfailure, hnotFound⟩ := h
    rw [not_isNotFound_bodyOf hfailure] at hnotFound
    cases hnotFound

section Serving

-- What these sessions ask for is told by lemmas and must not be computed.
attribute [local irreducible] Client.getResource Client.putResource Client.deleteResource

variable {client : Client} {path version : String} {body : Json} {place : Url}
  {policy : Option Json} {token : Option String} {asks : World.Call → Prop} {s s' : Option Json}

/-- Only what asks for a change changes a policy. -/
lemma eq_of_storing {c : World.Call} {r : World.Answer c} (hc : ¬ IsChange c)
    (h : storing place s c r s') : s' = s := by
  cases c with
  | http request =>
    simp only [storing] at h
    split at h
    · split at h
      next => exact h.1
      next hmethod _ => exact absurd ⟨request, rfl, .inl hmethod⟩ hc
      next hmethod => exact absurd ⟨request, rfl, .inr hmethod⟩ hc
      next => exact h
    · exact h
  | _ => exact h

lemma idles_storing {P : Option Json → Prop} (hasks : ∀ c, ¬ IsChange c → asks c) :
    Idles (storing place) (fun _ c => asks c) P where
  clock s hs := by
    refine ⟨hasks _ (by rintro ⟨_, ⟨⟩, _⟩), ?_⟩
    rintro r _ rfl
    exact hs
  sleep s duration hs := by
    refine ⟨hasks _ (by rintro ⟨_, ⟨⟩, _⟩), ?_⟩
    rintro r _ rfl
    exact hs

lemma calls_storing {credential : Credential} {P : Option Json → Prop}
    (hasks : ∀ c, ¬ IsChange c → asks c) (s : Option Json) (c : World.Call) (hs : P s)
    (hc : credential.Calls c) : asks c ∧ ∀ r s', storing place s c r s' → P s' := by
  refine ⟨hasks c (not_isChange_of_calls hc), ?_⟩
  intro r s' h
  exact eq_of_storing (not_isChange_of_calls hc) h ▸ hs

/-- A client with a token sends a request to the store. -/
lemma ensures_send_storing {request : Http.Request} {P : Option Json → Prop}
    {Q : Option Json → Except Failure Http.Response → Prop} (hasks : ∀ c, ¬ IsChange c → asks c)
    (hrequest : ∀ bearer, asks (.http (bearing request bearer)))
    (hreply : ∀ s bearer (reply : Http.Reply) s', P s →
      storing place s (.http (bearing request bearer)) reply s' →
        P s' ∧ Q s' (judge (answerOf reply)))
    (hlost : ∀ s, P s → Q s (.error .transport)) (htoken : token.isSome = true) (hs : P s) :
    ((client.send request).runFrom token).Ensures (storing place) (fun _ c => asks c)
      (Returns (fun s x => x.2.isSome = true ∧ (∀ answer, x.1 = .ok answer → IsReady x.2) ∧
        P s ∧ Q s x.1) fun _ => True) s := by
  refine (ensures_send (C := fun _ => True) (Q := fun s r => P s ∧ Q s r) (idles_storing hasks)
    (fun _ _ => trivial) (calls_storing hasks) ?_ hs).mono (fun _ _ h => h) ?_
  · intro s bearer hs
    refine ⟨hrequest bearer, ?_⟩
    intro reply s' h
    obtain ⟨hs', hq⟩ := hreply s bearer reply s' hs h
    refine ⟨fun _ => ⟨hs', hq⟩, fun _ => ⟨hs', ?_⟩⟩
    rintro now _ rfl
    exact ⟨hs', hq⟩
  · rintro s (_ | ⟨r, token'⟩) h
    · trivial
    rcases h with ⟨hready, hs, hq⟩ | ⟨hunready, hs, failure, rfl, hfailed⟩
    · exact ⟨hready.isSome, fun _ _ => hready, hs, hq⟩
    · obtain ⟨rfl, rfl⟩ := hfailed htoken
      exact ⟨htoken, nofun, hs, hlost s hs⟩

/-- Following an operation changes no policy. -/
lemma ensures_follow_storing {operation : Operation.Follow} (hasks : ∀ c, ¬ IsChange c → asks c)
    (hready : IsReady token) :
    ((client.follow operation).runFrom token).Ensures (storing place) (fun _ c => asks c)
      (Returns (fun s x => IsReady x.2 ∧ s = policy) fun _ => True) policy := by
  refine ensures_follow (P := (· = policy)) (Q := fun s _ => s = policy) (idles_storing hasks)
    (fun _ _ => trivial) (calls_storing hasks) ?_ hready rfl
  rintro s bearer rfl
  have hsends : client.credential.Sends operation.poll (.http (bearing operation.poll bearer)) :=
    .bearing bearer
  have hquiet := not_isChange_of_sends rfl hsends
  refine ⟨hasks _ hquiet, ?_⟩
  intro reply s' h
  cases eq_of_storing hquiet h
  have hends : ∀ r, EndsPoll (storing place) operation.url (· = s) (fun s' _ => s' = s) s r := by
    rintro (failure | _ | _)
    · rfl
    · rfl
    · exact ⟨rfl, fun _ _ h => h⟩
  refine ⟨fun _ => hends _, fun _ => ⟨rfl, ?_⟩⟩
  rintro now _ rfl
  exact hends _

/-- What follows a granted change leaves the policy as it is then. -/
lemma ensures_conclude_storing {α : Type} {accepted : List Nat} {answer : Http.Response}
    {k : Http.Response × Option Operation.Follow → Session α}
    (hasks : ∀ c, ¬ IsChange c → asks c) (hready : IsReady token)
    (hk : ∀ x token, IsReady token → ((k x).runFrom token).Ensures (storing place)
      (fun _ c => asks c) (Returns (fun s x => x.2.isSome = true ∧ s = policy) fun _ => True)
      policy) :
    ((client.conclude accepted answer >>= k).runFrom token).Ensures (storing place)
      (fun _ c => asks c) (Returns (fun s x => x.2.isSome = true ∧ s = policy) fun _ => True)
      policy := by
  rw [runFrom_bind, runFrom_conclude]
  rcases operationOf accepted answer with failure | _ | operation
  · exact ⟨hready.isSome, rfl⟩
  · exact hk (answer, none) token hready
  · simp only
    rw [resume_bind]
    refine ensures_resume (ensures_follow_storing hasks hready) (fun _ _ => trivial) ?_ ?_
    · rintro s failure token ⟨hready, rfl⟩
      exact ⟨hready.isSome, rfl⟩
    · rintro s u token ⟨hready, rfl⟩
      exact hk (answer, some operation) token hready

/-! ### The calls of the adapter -/

lemma storing_get {bearer : String} {reply : Http.Reply} :
    storing place s (.http (bearing (inquiry place) bearer)) reply s' ↔
      s' = s ∧ ∀ response, reply = some response → Shows s response := by
  rw [storing, if_pos (show (bearing (inquiry place) bearer).url = place from rfl)]
  rfl

lemma storing_put {bearer : String} {reply : Http.Reply} :
    storing place s (.http (bearing (creation place body) bearer)) reply s' ↔
      (s' = s ∨ s' = some body) ∧
        ∀ response, reply = some response → response.isSuccess = true → s' = some body := by
  rw [storing, if_pos (show (bearing (creation place body) bearer).url = place from rfl)]
  rfl

lemma storing_delete {bearer : String} {reply : Http.Reply} :
    storing place s (.http (bearing (order place) bearer)) reply s' ↔
      (s' = s ∨ s' = none) ∧
        ∀ response, reply = some response → response.isSuccess = true ∨ response.status = 404 →
          s' = none := by
  rw [storing, if_pos (show (bearing (order place) bearer).url = place from rfl)]
  rfl

/-- Reading the policy. -/
lemma ensures_getResource_storing
    (hplace : Client.resourceUrl client.base path version = .ok place)
    (hasks : ∀ c, ¬ IsChange c → asks c) (htoken : token.isSome = true) :
    ((client.getResource path version).runFrom token).Ensures (storing place) (fun _ c => asks c)
      (Returns (fun s x => x.2.isSome = true ∧ governing policy (.get path version) x.1 s)
        fun _ => True) policy := by
  have hquiet : ∀ bearer, ¬ IsChange (.http (bearing (inquiry place) bearer)) := by
    intro bearer
    have hsends : client.credential.Sends (inquiry place)
        (.http (bearing (inquiry place) bearer)) :=
      .bearing bearer
    exact not_isChange_of_sends rfl hsends
  rw [runFrom_getResource, hplace]
  refine ensures_resume (ensures_send_storing (P := (· = policy))
    (Q := fun _ r => (∀ value, r.bind bodyOf = .ok value → policy = some value) ∧
      (IsAbsence (r.bind bodyOf) → policy = none)) hasks (fun bearer => hasks _ (hquiet bearer))
    ?_ ?_ htoken rfl) (fun _ _ => trivial) ?_ ?_
  · rintro s bearer reply s' rfl h
    obtain ⟨rfl, hshows⟩ := storing_get.1 h
    refine ⟨rfl, ?_, ?_⟩
    · intro value hvalue
      cases hjudge : judge (answerOf reply) with
      | error failure =>
        rw [hjudge] at hvalue
        cases hvalue
      | ok response =>
        obtain ⟨rfl, hsuccess⟩ := judge_eq_ok.1 hjudge
        obtain ⟨stored, rfl, hbody⟩ := (hshows response rfl).found hsuccess
        rw [hjudge] at hvalue
        cases (reads_iff.1 hbody).trans hvalue
        rfl
    · intro habsent
      obtain ⟨response, rfl, hstatus⟩ := exists_of_isAbsence_judge (isAbsence_bind_bodyOf habsent)
      exact (hshows response rfl).absent hstatus
  · rintro s rfl
    refine ⟨nofun, ?_⟩
    rintro ⟨_, ⟨⟩, ⟨⟩⟩
  · rintro s failure token ⟨htoken, -, rfl, hread⟩
    exact ⟨htoken, rfl, hread⟩
  · rintro s response token ⟨htoken, -, rfl, hread⟩
    rw [runFrom_ofExcept]
    exact ⟨htoken, rfl, hread⟩

/-- Replacing the policy. -/
lemma ensures_putResource_storing
    (hplace : Client.resourceUrl client.base path version = .ok place) (hasks : ∀ c, asks c)
    (htoken : token.isSome = true) :
    ((client.putResource path version body).runFrom token).Ensures (storing place)
      (fun _ c => asks c)
      (Returns (fun s x => x.2.isSome = true ∧ governing policy (.put path version body) x.1 s)
        fun _ => True) policy := by
  rw [runFrom_putResource, hplace]
  refine ensures_resume (ensures_send_storing (P := fun s => s = policy ∨ s = some body)
    (Q := fun s r => ∀ answer, r = .ok answer → s = some body) (fun c _ => hasks c)
    (fun bearer => hasks _) ?_ (by rintro _ _ _ ⟨⟩) htoken (.inl rfl)) (fun _ _ => trivial) ?_ ?_
  · intro s bearer reply s' hs h
    obtain ⟨hkept, hgranted⟩ := storing_put.1 h
    refine ⟨?_, ?_⟩
    · rcases hkept with rfl | rfl
      · exact hs
      · exact .inr rfl
    · intro answer hanswer
      obtain ⟨rfl, hsuccess⟩ := judge_eq_ok.1 hanswer
      exact hgranted answer rfl hsuccess
  · rintro s failure token ⟨htoken, -, hs, -⟩
    exact ⟨htoken, hs, nofun⟩
  · rintro s answer token ⟨-, hready, -, hs⟩
    -- The creation was granted, and what follows only reads.
    cases hs answer rfl
    refine (ensures_conclude_storing (fun c _ => hasks c) (hready answer rfl) ?_).mono
      (fun _ _ h => h) ?_
    · rintro ⟨answer, operation⟩ token hready
      cases operation with
      | none =>
        rw [Client.created, runFrom_ofExcept]
        exact ⟨hready.isSome, rfl⟩
      | some operation =>
        refine (ensures_getResource_storing hplace (fun c _ => hasks c) hready.isSome).mono
          (fun _ _ h => h) ?_
        rintro s (_ | x) h
        · trivial
        · exact ⟨h.1, h.2.1⟩
    · rintro s (_ | x) h
      · trivial
      · obtain ⟨hsome, rfl⟩ := h
        exact ⟨hsome, .inr rfl, fun _ _ => rfl⟩

/-- Removing the policy. -/
lemma ensures_deleteResource_storing
    (hplace : Client.resourceUrl client.base path version = .ok place) (hasks : ∀ c, asks c)
    (htoken : token.isSome = true) :
    ((client.deleteResource path version).runFrom token).Ensures (storing place)
      (fun _ c => asks c)
      (Returns (fun s x => x.2.isSome = true ∧ governing policy (.delete path version) x.1 s)
        fun _ => True) policy := by
  rw [runFrom_deleteResource_eq, hplace]
  refine ensures_resume (ensures_send_storing (P := fun s => s = policy ∨ s = none)
    (Q := fun s r => (∀ answer, r = .ok answer → s = none) ∧ (IsAbsence r → s = none))
    (fun c _ => hasks c) (fun bearer => hasks _) ?_ ?_ htoken (.inl rfl)) (fun _ _ => trivial) ?_ ?_
  · intro s bearer reply s' hs h
    obtain ⟨hkept, hgranted⟩ := storing_delete.1 h
    refine ⟨?_, ?_, ?_⟩
    · rcases hkept with rfl | rfl
      · exact hs
      · exact .inr rfl
    · intro answer hanswer
      obtain ⟨rfl, hsuccess⟩ := judge_eq_ok.1 hanswer
      exact hgranted answer rfl (.inl hsuccess)
    · intro habsent
      obtain ⟨response, rfl, hstatus⟩ := exists_of_isAbsence_judge habsent
      exact hgranted response rfl (.inr hstatus)
  · rintro s _
    refine ⟨nofun, ?_⟩
    rintro ⟨_, ⟨⟩, ⟨⟩⟩
  · rintro s failure token ⟨htoken, -, hs, -, habsent⟩
    refine ⟨htoken, hs, ?_⟩
    rintro (⟨⟨⟩⟩ | h)
    exact habsent (isAbsence_error.2 (isAbsence_error.1 h))
  · rintro s answer token ⟨-, hready, -, hs, -⟩
    cases hs answer rfl
    refine (ensures_conclude_storing (fun c _ => hasks c) (hready answer rfl) ?_).mono
      (fun _ _ h => h) ?_
    · intro x token hready
      exact ⟨hready.isSome, rfl⟩
    · rintro s (_ | x) h
      · trivial
      · obtain ⟨hsome, rfl⟩ := h
        exact ⟨hsome, .inr rfl, fun _ => rfl⟩

/-- The calls about a policy do to it what they say. -/
theorem ensures_serve_storing {allowed : Prop}
    (hplace : Client.resourceUrl client.base path version = .ok place)
    (hasks : ∀ c, (IsChange c → allowed) → asks c) {c : Call} (hc : IsAbout path version allowed c)
    (htoken : token.isSome = true) :
    (c.serve client token).Ensures (storing place) (fun _ c => asks c)
      (Returns (fun s r => governing policy c r.1 s ∧ r.2.isSome = true) fun _ => True) policy := by
  have hquiet : ∀ c, ¬ IsChange c → asks c := fun c hc => hasks c fun h => absurd h hc
  cases c with
  | get p v =>
    obtain ⟨rfl, rfl⟩ := hc
    refine (ensures_getResource_storing hplace hquiet htoken).mono (fun _ _ h => h) ?_
    rintro s (_ | x) h
    · trivial
    · exact h.symm
  | put p v body =>
    obtain ⟨rfl, rfl, hallowed⟩ := hc
    refine (ensures_putResource_storing hplace (fun c => hasks c fun _ => hallowed) htoken).mono
      (fun _ _ h => h) ?_
    rintro s (_ | x) h
    · trivial
    · exact h.symm
  | delete p v =>
    obtain ⟨rfl, rfl, hallowed⟩ := hc
    refine (ensures_deleteResource_storing hplace (fun c => hasks c fun _ => hallowed)
      htoken).mono (fun _ _ h => h) ?_
    rintro s (_ | x) h
    · trivial
    · exact h.symm
  | _ => exact hc.elim

end Serving

end BucketOperator.Azure
