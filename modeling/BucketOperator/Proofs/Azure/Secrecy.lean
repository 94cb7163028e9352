import BucketOperator.Proofs.Azure.Changing
import BucketOperator.Proofs.Cluster.Secrecy

/-!
# Clients with another client secret

Two clients of Resource Manager that differ in a client secret alone ask the same, but for that
secret in the form they post to Azure AD. Told the same, they hold the same token and come to the
same results.
-/

namespace BucketOperator.Azure

open Program (Coupled OnlyAsks)
open World (ToldAlike secrecy ofSecret_secrecy)
open World.Call (IsElsewhere)

/-! ### Credentials -/

/-- Two credentials are the same, but for a client secret for Azure AD. -/
inductive Credential.Alike (IsNamed : String → Prop) : Credential → Credential → Prop where
  | same (credential : Credential) : Credential.Alike IsNamed credential credential
  | clientSecret {tenantId : String} (clientId secret secret' : String) (h : IsNamed tenantId) :
    Credential.Alike IsNamed (.clientSecret authorityHost tenantId clientId secret)
      (.clientSecret authorityHost tenantId clientId secret')

section Credentials

variable {u : Trace World} {α : Type}

/-- Requests that count as the same are answered the same. -/
lemma coupled_http {request request' : Http.Request} {next : Http.Reply → Program World α}
    (hcalls : World.Call.Alike (NamesTenant u) (.http request) (.http request'))
    (hnext : ∀ reply, (next reply).OnlyAsks IsElsewhere) :
    Coupled secrecy (fun _ => Eq) u (.ask (.http request) next) (.ask (.http request') next) := by
  refine ⟨hcalls, ?_⟩
  rintro (reply : Http.Reply) (reply' : Http.Reply) h
  cases h with
  | same => exact ofSecret_secrecy.coupled (hnext reply)
  | http => exact ofSecret_secrecy.coupled (hnext reply)

-- These requests are parts of statements and must not be computed.
attribute [local irreducible] metadataRequest secretRequest assertionRequest tokenEndpoint

/-- What follows a request for a token. -/
lemma onlyAsks_requestToken {request : Except Failure Http.Request} :
    (requestToken request).OnlyAsks IsElsewhere := by
  cases request with
  | error failure => trivial
  | ok request =>
    rw [requestToken_ok]
    exact ⟨trivial, fun _ => trivial⟩

lemma onlyAsks_token {credential : Credential} : credential.token.OnlyAsks IsElsewhere := by
  cases credential with
  | fixed token => trivial
  | managed endpoint clientId => exact onlyAsks_requestToken
  | clientSecret authority tenantId clientId secret => exact onlyAsks_requestToken
  | workload authority tenantId clientId tokenFile =>
    refine ⟨trivial, fun file => ?_⟩
    cases file with
    | ok assertion => exact onlyAsks_requestToken
    | error reason => trivial

/-- A client secret is posted to the tenant, and the answer is read the same both times. -/
lemma coupled_secretRequest {tenantId clientId secret secret' : String}
    (h : NamesTenant u tenantId) :
    Coupled secrecy (fun _ => Eq) u
      (requestToken (secretRequest authorityHost tenantId clientId secret))
      (requestToken (secretRequest authorityHost tenantId clientId secret')) := by
  rw [secretRequest, secretRequest]
  cases hurl : tokenEndpoint authorityHost tenantId with
  | error failure => rfl
  | ok url =>
    change Coupled _ _ _ (requestToken (.ok _)) (requestToken (.ok _))
    rw [requestToken_ok, requestToken_ok]
    exact coupled_http (.token h (.intro [("grant_type", "client_credentials"),
      ("client_id", clientId)] [("scope", managerScope)] secret secret' hurl)) fun _ => trivial

/-- The same token is acquired both times. -/
lemma coupled_token {credential credential' : Credential}
    (h : credential.Alike (NamesTenant u) credential') :
    Coupled secrecy (fun _ => Eq) u credential.token credential'.token := by
  cases h with
  | same => exact ofSecret_secrecy.coupled onlyAsks_token
  | clientSecret clientId secret secret' h => exact coupled_secretRequest h

end Credentials

/-! ### Clients -/

/-- Two clients are the same, but for such a secret. -/
structure Client.Alike (IsNamed : String → Prop) (client client' : Client) : Prop where
  base : client'.base = client.base
  credential : client.credential.Alike IsNamed client'.credential
  retries : client'.retries = client.retries
  polls : client'.polls = client.polls
  patience : client'.patience = client.patience

lemma Credential.Alike.append {credential credential' : Credential} {u : Trace World}
    (h : credential.Alike (NamesTenant u) credential') (v : Trace World) :
    credential.Alike (NamesTenant (u ++ v)) credential' := by
  cases h with
  | same => exact .same _
  | clientSecret clientId secret secret' h =>
    exact .clientSecret clientId secret secret' (h.append v)

lemma Client.Alike.append {client client' : Client} {u : Trace World}
    (h : client.Alike (NamesTenant u) client') (v : Trace World) :
    client.Alike (NamesTenant (u ++ v)) client' := by
  exact { h with credential := h.credential.append v }

section Sessions

variable {client client' : Client} {u : Trace World} {token : Option String} {α β : Type}
  {request : Http.Request} {path version : String} {body : Json}

/-- Two sessions do the same, told the same. -/
def SessionsAlike (u : Trace World) (x y : Session α) (token : Option String) : Prop :=
  Coupled secrecy (fun _ => Eq) u (x.runFrom token) (y.runFrom token)

lemma SessionsAlike.then {x y : Session α} {f g : α → Session β}
    (h : SessionsAlike u x y token)
    (hf : ∀ v a token, SessionsAlike (u ++ v) (f a) (g a) token) :
    Coupled secrecy (fun _ => Eq) u ((x.runFrom token).bind (resume f))
      ((y.runFrom token).bind (resume g)) := by
  refine Coupled.bind h ?_
  rintro v ⟨failure | a, token⟩ _ rfl
  · rfl
  · exact hf v a token

lemma sessionsAlike_ofExcept {outcome : Except Failure α} :
    SessionsAlike u (liftM outcome) (liftM outcome) token := by
  rw [SessionsAlike, runFrom_ofExcept]
  rfl

/-- The same token is held both times. -/
lemma sessionsAlike_bearer (h : client.Alike (NamesTenant u) client') :
    SessionsAlike u client.bearer client'.bearer token := by
  cases token with
  | some token => rfl
  | none =>
    rw [SessionsAlike, runFrom_bearer_none, runFrom_bearer_none]
    refine (coupled_token h.credential).bind ?_
    rintro v (failure | token) _ rfl
    · rfl
    · rfl

lemma onlyAsks_attempt {bearer : String} :
    (Client.attempt bearer request).OnlyAsks IsElsewhere := by
  rw [attempt_eq]
  split
  · exact ⟨trivial, fun _ => trivial⟩
  · trivial

lemma sessionsAlike_send (h : client.Alike (NamesTenant u) client') :
    SessionsAlike u (client.send request) (client'.send request) token := by
  rw [SessionsAlike, runFrom_send, runFrom_send, h.patience, h.retries]
  refine (sessionsAlike_bearer h).then fun v bearer token => ?_
  refine ofSecret_secrecy.coupled (OnlyAsks.bind ?_ fun _ => trivial)
  exact (Retry.onlyAsks_persist onlyAsks_attempt trivial fun _ => trivial).bind fun _ => trivial

/-- A request is sent for both, and then only what follows counts. -/
lemma coupled_send_then {f g : Http.Response → Session α}
    (h : client.Alike (NamesTenant u) client')
    (hf : ∀ v response token, client.Alike (NamesTenant (u ++ v)) client' →
      SessionsAlike (u ++ v) (f response) (g response) token) :
    Coupled secrecy (fun _ => Eq) u (((client.send request).runFrom token).bind (resume f))
      (((client'.send request).runFrom token).bind (resume g)) :=
  (sessionsAlike_send h).then fun v response token => hf v response token (h.append v)

lemma sessionsAlike_getResource (h : client.Alike (NamesTenant u) client') :
    SessionsAlike u (client.getResource path version) (client'.getResource path version) token := by
  rw [SessionsAlike, runFrom_getResource, runFrom_getResource, h.base]
  split
  · rfl
  · exact coupled_send_then h fun _ _ _ _ => sessionsAlike_ofExcept

lemma sessionsAlike_poll {operation : Operation.Follow} (h : client.Alike (NamesTenant u) client') :
    SessionsAlike u (client.poll operation) (client'.poll operation) token := by
  rw [SessionsAlike, runFrom_poll, runFrom_poll]
  exact coupled_send_then h fun _ _ _ _ => sessionsAlike_ofExcept

lemma sessionsAlike_pollFrom {operation : Operation.Follow} {start patience : Nat}
    {backoff : Backoff} (h : client.Alike (NamesTenant u) client') :
    SessionsAlike u (Client.pollFrom operation.url (client.poll operation) start patience backoff)
      (Client.pollFrom operation.url (client'.poll operation) start patience backoff) token := by
  induction patience generalizing u backoff token with
  | zero => trivial
  | succ patience ih =>
    rw [SessionsAlike, runFrom_pollFrom_succ, runFrom_pollFrom_succ]
    refine (sessionsAlike_poll h).then fun v progress token => ?_
    cases progress with
    | ended => rfl
    | running =>
      rw [SessionsAlike, runFrom_repoll_running, runFrom_repoll_running]
      refine ⟨.same _, ?_⟩
      rintro (now : Nat) (now' : Nat) hnow
      cases ofSecret_secrecy.told .clock now now' trivial hnow
      change Coupled _ _ _ (if _ then _ else _ : Program World _) (if _ then _ else _)
      split
      · rfl
      · split
        · trivial
        · exact ⟨.same _, fun _ _ _ => ih (((h.append v).append _).append _)⟩

lemma sessionsAlike_follow {operation : Operation.Follow}
    (h : client.Alike (NamesTenant u) client') :
    SessionsAlike u (client.follow operation) (client'.follow operation) token := by
  rw [SessionsAlike, runFrom_follow, runFrom_follow, h.patience, h.polls]
  refine ⟨.same _, ?_⟩
  rintro (start : Nat) (start' : Nat) hstart
  cases ofSecret_secrecy.told .clock start start' trivial hstart
  exact sessionsAlike_pollFrom (h.append _)

lemma sessionsAlike_conclude {accepted : List Nat} {response : Http.Response}
    (h : client.Alike (NamesTenant u) client') :
    SessionsAlike u (client.conclude accepted response) (client'.conclude accepted response)
      token := by
  rw [SessionsAlike, runFrom_conclude, runFrom_conclude]
  split
  · rfl
  · rfl
  · exact (sessionsAlike_follow h).then fun _ _ _ => rfl

/-- What is concluded from an answer is the same, and then only what follows counts. -/
lemma sessionsAlike_conclude_then {accepted : List Nat} {response : Http.Response}
    {f g : Http.Response × Option Operation.Follow → Session α}
    (h : client.Alike (NamesTenant u) client')
    (hf : ∀ v r token, client.Alike (NamesTenant (u ++ v)) client' →
      SessionsAlike (u ++ v) (f r) (g r) token) :
    SessionsAlike u (client.conclude accepted response >>= f)
      (client'.conclude accepted response >>= g) token := by
  rw [SessionsAlike, runFrom_bind, runFrom_bind]
  exact (sessionsAlike_conclude h).then fun v r token => hf v r token (h.append v)

lemma sessionsAlike_putResource (h : client.Alike (NamesTenant u) client') :
    SessionsAlike u (client.putResource path version body)
      (client'.putResource path version body) token := by
  rw [SessionsAlike, runFrom_putResource, runFrom_putResource, h.base]
  split
  · rfl
  refine coupled_send_then h fun v response token h => sessionsAlike_conclude_then h ?_
  rintro w ⟨response, _ | operation⟩ token h
  · exact sessionsAlike_ofExcept
  · exact sessionsAlike_getResource h

lemma sessionsAlike_postResource (h : client.Alike (NamesTenant u) client') :
    SessionsAlike u (client.postResource path version) (client'.postResource path version)
      token := by
  rw [SessionsAlike, runFrom_postResource, runFrom_postResource, h.base]
  split
  · rfl
  · exact coupled_send_then h fun _ _ _ _ => sessionsAlike_ofExcept

lemma sessionsAlike_deleteResource (h : client.Alike (NamesTenant u) client') :
    SessionsAlike u (client.deleteResource path version) (client'.deleteResource path version)
      token := by
  rw [SessionsAlike, runFrom_deleteResource_eq, runFrom_deleteResource_eq, h.base]
  split
  · rfl
  · refine coupled_send_then h fun v response token h => ?_
    exact sessionsAlike_conclude_then h fun _ _ _ _ => rfl

end Sessions

/-! ### Operations -/

section Operations

variable {client client' : Client} {u : Trace World} {token : Option String} {α : Type}

-- What these sessions ask for is told by lemmas and must not be computed.
attribute [local irreducible] Client.getResource Client.putResource Client.postResource
  Client.deleteResource

/-- A call of the adapter is made in the same way, and leaves the same token. -/
lemma coupled_serve {c : Call} (h : client.Alike (NamesTenant u) client') :
    Coupled secrecy (fun _ => Eq) u (c.serve client token) (c.serve client' token) := by
  cases c with
  | get path version => exact sessionsAlike_getResource h
  | put path version body => exact sessionsAlike_putResource h
  | post path version => exact sessionsAlike_postResource h
  | delete path version => exact sessionsAlike_deleteResource h
  | applySecret namespaceName name accountName accountKey =>
    refine (AccessSecret.coupled_apply ofSecret_secrecy).bind ?_
    rintro v outcome _ rfl
    rfl
  | deleteSecret namespaceName name =>
    rw [Call.serve, Call.serve, h.patience]
    refine (AccessSecret.coupled_remove ofSecret_secrecy).bind ?_
    rintro v outcome _ rfl
    rfl

/-- Operations come to the same outcomes with both clients, and leave them with the same token. -/
theorem coupled_operation {operation : Operation α} (h : client.Alike (NamesTenant u) client') :
    Coupled secrecy (fun _ => Eq) u (operation.runFrom client token)
      (operation.runFrom client' token) := by
  have hasks : (ExceptT.run operation).OnlyAsks fun _ => True :=
    Program.onlyAsks_of_forall fun _ => trivial
  refine (hasks.coupled_interpret (T := fun v x y =>
    x = y ∧ client.Alike (NamesTenant v) client') ?_ ⟨rfl, h⟩).mono ?_
  · rintro v c token _ - ⟨rfl, h⟩
    refine (coupled_serve h).extending.mono ?_
    rintro w r _ ⟨rfl, x, rfl⟩
    exact ⟨rfl, rfl, h.append x⟩
  · rintro v ⟨outcome, token⟩ ⟨_, _⟩ ⟨rfl, rfl, -⟩
    rfl

end Operations

/-! ### What is set up for a cluster -/

section Setup

variable {IsNamed : String → Prop} {context context' : AzureContext} {tokenFile : Option String}
  {patience : Nat} {credential credential' : Credential}

lemma agree_credential (h : context.Alike IsNamed context') :
    Agree (Credential.Alike IsNamed) (Credential.of context tokenFile)
      (Credential.of context' tokenFile) := by
  obtain ⟨h⟩ := h
  rw [Credential.of, Credential.of]
  generalize context.identity = identity at h ⊢
  cases h with
  | same => exact agree_refl .same _
  | servicePrincipal clientId secret secret' h =>
    exact .ok (.clientSecret clientId secret secret' h)

lemma agree_client (h : context.Alike IsNamed context')
    (hcredential : credential.Alike IsNamed credential') :
    Agree (Client.Alike IsNamed) (Client.of context credential patience)
      (Client.of context' credential' patience) := by
  obtain ⟨h⟩ := h
  rw [Client.of, Client.of]
  split
  · exact .ok ⟨rfl, hcredential, rfl, rfl, rfl⟩
  · exact .error _

end Setup

end BucketOperator.Azure
