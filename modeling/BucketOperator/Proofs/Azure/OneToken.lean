import BucketOperator.Proofs.Azure.LongRunning
import BucketOperator.Proofs.Kubernetes.Asking
import BucketOperator.Reconcile.Serve

/-!
# One token for a client

A client acquires its token when it first sends a request, and keeps it. From then on every request
carries it, and the credential is of no matter. Where the acquisition fails, the call fails as it
did, and a later call tries again. Addresses are formed before that, so a call without one is made
without a token.
-/

namespace BucketOperator.Azure

open Program (OnlyAsks yields_bind_iff yields_done_iff yields_map_iff)
open Reconcile (Services)

/-! ### Calls and tokens -/

/-- Waiting, and sending a request that carries a token. -/
inductive Carries (bearer : String) : World.Call → Prop where
  | request {request : Http.Request}
      (h : request.headers = [("authorization", "Bearer " ++ bearer)]) :
      Carries bearer (.http request)
  | clock : Carries bearer .clock
  | sleep (duration : Nat) : Carries bearer (.sleep duration)

/-- The address of the resource that a call is about. Calls on secrets are about none. -/
def Call.place? (base : Url) : Call → Option (Except Failure Url)
  | .get path version => some (Client.resourceUrl base path version)
  | .put path version _ => some (Client.resourceUrl base path version)
  | .post path version => some (Client.resourceUrl base path version)
  | .delete path version => some (Client.resourceUrl base path version)
  | _ => none

/-- Whether a call on a resource was answered with a failure. -/
def Call.Fails (failure : Failure) : (c : Call) → c.Answer → Prop
  | .get .., (r : Except Failure Json) => r = .error failure
  | .put .., (r : Except Failure Json) => r = .error failure
  | .post .., (r : Except Failure Json) => r = .error failure
  | .delete .., (r : Except Failure Unit) => r = .error failure
  | _, _ => False

/-- A call that was made, what it asked, and what came of it. -/
structure Made where
  call : Call
  asked : Trace World
  answer : call.Answer

/-- The exchange that a call is for the adapter. -/
def Made.exchange (m : Made) : Exchange Api := ⟨m.call, m.answer⟩

namespace Client

variable (client : Client)

/-- The client with another credential. -/
def withCredential (credential : Credential) : Client := { client with credential }

@[simp] lemma withCredential_base (credential : Credential) :
    (client.withCredential credential).base = client.base := rfl

/-- Calls that were made one after the other, from one token to another, if there was one yet. -/
inductive Serves : Option String → List Made → Option String → Prop where
  | nil (token : Option String) : Serves token [] token
  | cons {token between token' : Option String} {m : Made} {made : List Made}
      (h : (m.call.serve client token).Yields m.asked (m.answer, between))
      (hrest : Serves between made token') : Serves token (m :: made) token'

/-- A call that was made without a token: it has no address, none could be acquired, or it is about
a secret. -/
inductive Lacks (m : Made) : Prop where
  | unaddressed {failure : Failure} (hplace : m.call.place? client.base = some (.error failure))
      (hasked : m.asked = []) (hanswer : m.call.Fails failure m.answer) : Lacks m
  | refused {url : Url} {failure : Failure} (hplace : m.call.place? client.base = some (.ok url))
      (htoken : client.credential.token.Yields m.asked (.error failure))
      (hanswer : m.call.Fails failure m.answer) : Lacks m
  | elsewhere (hplace : m.call.place? client.base = none)
      (hasked : ∀ e ∈ m.asked, e.call.IsOffline) : Lacks m

/-- A call that acquired a token, and sent its requests with it. -/
def Acquires (bearer : String) (m : Made) : Prop :=
  ∃ url before after, m.call.place? client.base = some (.ok url) ∧ m.asked = before ++ after ∧
    client.credential.token.Yields before (.ok bearer) ∧ ∀ e ∈ after, Carries bearer e.call

/-- A call that was made with a token. -/
inductive Uses (bearer : String) (m : Made) : Prop where
  | carried (hasked : ∀ e ∈ m.asked, Carries bearer e.call) : Uses bearer m
  | elsewhere (hplace : m.call.place? client.base = none)
      (hasked : ∀ e ∈ m.asked, e.call.IsOffline) : Uses bearer m

/-- What may have been asked for a call at any time. -/
inductive Stands (c : Call) : Option String → Trace World → Prop where
  | acquiring {t : Trace World} {p : Program World (Except Failure String)}
      (h : client.credential.token.After t p) : Stands c none t
  | acquired {before after : Trace World} {bearer : String}
      (h : client.credential.token.Yields before (.ok bearer))
      (hafter : ∀ e ∈ after, Carries bearer e.call) : Stands c none (before ++ after)
  | carried {t : Trace World} {bearer : String} (h : ∀ e ∈ t, Carries bearer e.call) :
      Stands c (some bearer) t
  | elsewhere {token : Option String} {t : Trace World} (hplace : c.place? client.base = none)
      (h : ∀ e ∈ t, e.call.IsOffline) : Stands c token t

/-- What the operations of an adapter have asked at any time: calls that were made, and one that may
be under way. -/
inductive Performs {α : Type} (p : Program Api α) (token : Option String) :
    Trace World → Program World (α × Option String) → Prop where
  | between {made : List Made} {token' : Option String} {p' : Program Api α}
      (hmade : client.Serves token made token') (hp : p.After (made.map Made.exchange) p') :
      Performs p token (made.flatMap Made.asked) (p'.interpret (Call.serve client) token')
  | underWay {made : List Made} {token' : Option String} {c : Call}
      {next : c.Answer → Program Api α} {t : Trace World}
      {x : Program World (c.Answer × Option String)}
      {q : Program World (α × Option String)} (hmade : client.Serves token made token')
      (hp : p.After (made.map Made.exchange) (.ask c next))
      (hcall : (c.serve client token').After t x) (hq : ∀ r, q ≠ .done r) :
      Performs p token (made.flatMap Made.asked ++ t) q

/-- A client has one token at most. -/
structure HasOneToken : Prop where
  /-- The calls of a client lack a token until one acquires it, which the others then use. -/
  once : ∀ made token, client.Serves none made token →
    (∀ m ∈ made, client.Lacks m) ∧ token = none ∨
      ∃ before m after bearer, made = before ++ m :: after ∧ token = some bearer ∧
        (∀ m ∈ before, client.Lacks m) ∧ client.Acquires bearer m ∧
          ∀ m ∈ after, client.Uses bearer m
  /-- A call that is under way has asked nothing else. -/
  underWay : ∀ c token t p, (c.serve client token).After t p → client.Stands c token t
  /-- A call with an address acquires a token if there is none yet, and fails if that fails. -/
  tried : ∀ (c : Call) url, c.place? client.base = some (.ok url) →
    ∃ refuse : Failure → c.Answer, (∀ failure, c.Fails failure (refuse failure)) ∧
      c.serve client none = client.credential.token.bind fun
        | .ok bearer => c.serve client (some bearer)
        | .error failure => .done (refuse failure, none)
  /-- A call without an address asks for nothing, with a token or without, and fails with the reason
  why there is none. The client is left as it was. -/
  unaddressed : ∀ (c : Call) failure, c.place? client.base = some (.error failure) →
    ∃ refusal : c.Answer, c.Fails failure refusal ∧
      ∀ token, c.serve client token = .done (refusal, token)
  /-- Nothing of an acquisition is like what is asked with a token. -/
  apart : ∀ t p, client.credential.token.After t p → ∀ e ∈ t, ∀ bearer, ¬ Carries bearer e.call
  /-- With a token, the credential is of no matter. -/
  kept : ∀ (c : Call) bearer credential,
    c.serve (client.withCredential credential) (some bearer) = c.serve client (some bearer)
  /-- The operations of the adapters make such calls one after the other. -/
  shared : ∀ {α : Type} (p : Program Api α) token t q,
    (p.interpret (Call.serve client) token).After t q → client.Performs p token t q
  /-- An operation of an adapter leaves the client and its token to the next one, of whichever
  adapter. -/
  handedOn : ∀ {α : Type} cluster (operation : Operation α) token t outcome services,
    (Services.runAzure cluster client token operation).Yields t (outcome, services) →
      ∃ token', services = .azure cluster client token' ∧
        client.Performs (ExceptT.run operation) token t (.done (outcome, token'))

end Client

/-! ### Sessions with a token -/

section Bearing

variable {α β : Type} {client : Client} {credential : Credential} {bearer : String}
  {request : Http.Request} {operation : Operation.Follow} {accepted : List Nat}
  {response : Http.Response} {path version : String}

/-- Two programs are the same, keep a token, and send their requests with it. -/
def Bears (bearer : String) (p p' : Program World (α × Option String)) : Prop :=
  ∃ program : Program World α, program.OnlyAsks (Carries bearer) ∧
    p = program.bind (fun r => .done (r, some bearer)) ∧
    p' = program.bind fun r => .done (r, some bearer)

lemma Bears.eq {p p' : Program World (α × Option String)} (h : Bears bearer p p') : p' = p := by
  obtain ⟨program, -, rfl, rfl⟩ := h
  rfl

lemma Bears.asked {p p' q : Program World (α × Option String)} {t : Trace World}
    (h : Bears bearer p p') (hq : p.After t q) : ∀ e ∈ t, Carries bearer e.call := by
  obtain ⟨program, hasks, rfl, -⟩ := h
  have hall : (program.bind fun r => .done (r, some bearer)).OnlyAsks (Carries bearer) :=
    hasks.bind fun _ => trivial
  exact hall.asked hq

lemma Bears.kept {p p' : Program World (α × Option String)} {t : Trace World} {a : α}
    {token : Option String} (h : Bears bearer p p') (ha : p.Yields t (a, token)) :
    token = some bearer := by
  obtain ⟨program, -, rfl, -⟩ := h
  obtain ⟨_, _, ⟨⟩⟩ := yields_map_iff.1 ha
  rfl

lemma bears_done {a : α} : Bears bearer (.done (a, some bearer)) (.done (a, some bearer)) :=
  ⟨.done a, trivial, rfl, rfl⟩

lemma bears_ofExcept {outcome : Except Failure α} :
    Bears bearer ((liftM outcome : Session α).runFrom (some bearer))
      ((liftM outcome : Session α).runFrom (some bearer)) := by
  rw [runFrom_ofExcept]
  exact bears_done

/-- A session that goes on with a token after a program that keeps it. -/
lemma bind_resume {program : Program World (Except Failure α)} {f : α → Session β}
    {rest : α → Program World (Except Failure β)}
    (h : ∀ a, (f a).runFrom (some bearer) = (rest a).bind fun r => .done (r, some bearer)) :
    (program.bind fun r => .done (r, some bearer)).bind (resume f) =
      (program.bind fun
        | .error failure => .done (.error failure)
        | .ok a => rest a).bind fun r => .done (r, some bearer) := by
  rw [Program.bind_assoc, Program.bind_assoc]
  congr 1
  funext r
  cases r with
  | error failure => rfl
  | ok a => exact h a

lemma Bears.resume {p p' : Program World (Except Failure α × Option String)}
    {f f' : α → Session β} (h : Bears bearer p p')
    (hf : ∀ a, Bears bearer ((f a).runFrom (some bearer)) ((f' a).runFrom (some bearer))) :
    Bears bearer (p.bind (resume f)) (p'.bind (resume f')) := by
  obtain ⟨program, hasks, rfl, rfl⟩ := h
  choose rest hrest hp hp' using hf
  refine ⟨_, hasks.bind ?_, bind_resume hp, bind_resume hp'⟩
  rintro (failure | a)
  · trivial
  · exact hrest a

lemma onlyAsks_deliver (h : request.headers = []) :
    (client.deliver bearer request).OnlyAsks (Carries bearer) := by
  refine (Retry.onlyAsks_persist ?_ .clock .sleep).bind fun _ => trivial
  rw [attempt_eq]
  split
  · exact ⟨.request (by rw [bearing, h]), fun _ => trivial⟩
  · trivial

lemma bears_send (h : request.headers = []) :
    Bears bearer ((client.send request).runFrom (some bearer))
      (((client.withCredential credential).send request).runFrom (some bearer)) :=
  ⟨client.deliver bearer request, onlyAsks_deliver h, runFrom_send_some, runFrom_send_some⟩

lemma bears_follow : Bears bearer ((client.follow operation).runFrom (some bearer))
    (((client.withCredential credential).follow operation).runFrom (some bearer)) := by
  refine ⟨(Retry.inWorld (client.inquire bearer operation) (Retry.persist client.patience
    tellsRunning client.polls)).bind fun told => .done (operation.verdict told), ?_, ?_, ?_⟩
  · refine (Retry.onlyAsks_persist ?_ .clock .sleep).bind fun _ => trivial
    exact (onlyAsks_deliver rfl).bind fun _ => trivial
  · rw [runFrom_follow_some, Program.bind_assoc]
    rfl
  · rw [runFrom_follow_some, Program.bind_assoc]
    rfl

lemma bears_conclude : Bears bearer ((client.conclude accepted response).runFrom (some bearer))
    (((client.withCredential credential).conclude accepted response).runFrom (some bearer)) := by
  rw [runFrom_conclude, runFrom_conclude]
  rcases operationOf accepted response with failure | _ | operation
  · exact bears_done
  · exact bears_done
  · exact bears_follow.resume fun _ => bears_done

lemma bears_getResource :
    Bears bearer ((client.getResource path version).runFrom (some bearer))
      (((client.withCredential credential).getResource path version).runFrom (some bearer)) := by
  rw [runFrom_getResource, runFrom_getResource, Client.withCredential_base]
  cases Client.resourceUrl client.base path version with
  | error failure => exact bears_done
  | ok url => exact (bears_send rfl).resume fun _ => bears_ofExcept

lemma bears_created {x : Http.Response × Option Operation.Follow} :
    Bears bearer ((client.created path version x).runFrom (some bearer))
      (((client.withCredential credential).created path version x).runFrom (some bearer)) := by
  rcases x with ⟨response, _ | operation⟩
  · exact bears_ofExcept
  · exact bears_getResource

end Bearing

/-! ### Sessions without a token -/

section Awaiting

-- Addresses must not be computed to compare what follows them.
attribute [local irreducible] Client.resourceUrl

variable {α : Type} {client : Client} {credential : Credential} {bearer : String} {c : Call}
  {place : Except Failure Url} {path version : String} {body : Json}

/-- How something is done by a client, and by one with another credential: not at all without an
address, or else with a token, which is acquired first if there is none yet. -/
structure Client.Awaits (client : Client) (place : Except Failure Url) (refuse : Failure → α)
    (serve serve' : Option String → Program World (α × Option String)) : Prop where
  unaddressed : ∀ failure token, place = .error failure →
    serve token = .done (refuse failure, token)
  acquires : ∀ url, place = .ok url → serve none = client.credential.token.bind fun
    | .ok bearer => serve (some bearer)
    | .error failure => .done (refuse failure, none)
  bears : ∀ bearer, Bears bearer (serve (some bearer)) (serve' (some bearer))

/-- Go on where there is an address. -/
def atPlace (place : Except Failure Url) (token : Option String)
    (p : Url → Program World (Except Failure α × Option String)) :
    Program World (Except Failure α × Option String) :=
  match place with
  | .error failure => .done (.error failure, token)
  | .ok url => p url

/-- Sessions that begin by sending a request do so. -/
lemma awaits_of_send {session session' : Session α} (request : Url → Http.Request)
    (rest rest' : Http.Response → Session α) (hheaders : ∀ url, (request url).headers = [])
    (h : ∀ token, session.runFrom token = atPlace place token fun url =>
      ((client.send (request url)).runFrom token).bind (resume rest))
    (h' : ∀ token, session'.runFrom token = atPlace place token fun url =>
      (((client.withCredential credential).send (request url)).runFrom token).bind
        (resume rest'))
    (hrest : ∀ response bearer, Bears bearer ((rest response).runFrom (some bearer))
      ((rest' response).runFrom (some bearer))) :
    client.Awaits place Except.error session.runFrom session'.runFrom := by
  cases place with
  | error failure =>
    refine ⟨?_, nofun, fun bearer => ?_⟩
    · rintro _ token ⟨⟩
      exact h token
    · rw [h, h']
      exact bears_done
  | ok url =>
    refine ⟨nofun, ?_, fun bearer => ?_⟩
    · rintro _ ⟨⟩
      rw [h]
      change ((client.send (request url)).runFrom none).bind _ = _
      rw [runFrom_send_none, Program.bind_assoc]
      congr 1
      funext acquired
      cases acquired with
      | error failure => rfl
      | ok bearer => exact (h (some bearer)).symm
    · rw [h, h']
      exact (bears_send (hheaders url)).resume fun response => hrest response bearer

lemma awaits_getResource :
    client.Awaits (Client.resourceUrl client.base path version) Except.error
      (client.getResource path version).runFrom
      ((client.withCredential credential).getResource path version).runFrom :=
  awaits_of_send inquiry (fun response => liftM (bodyOf response))
    (fun response => liftM (bodyOf response)) (fun _ => rfl)
    (runFrom_getResource client path version)
    (runFrom_getResource (client.withCredential credential) path version)
    fun _ _ => bears_ofExcept

lemma awaits_putResource :
    client.Awaits (Client.resourceUrl client.base path version) Except.error
      (client.putResource path version body).runFrom
      ((client.withCredential credential).putResource path version body).runFrom := by
  refine awaits_of_send (creation · body)
    (fun response => client.conclude creationAccepted response >>= client.created path version)
    (fun response => (client.withCredential credential).conclude creationAccepted response >>=
      (client.withCredential credential).created path version)
    (fun _ => rfl) (fun _ => runFrom_putResource) (fun _ => runFrom_putResource)
    fun response bearer => ?_
  rw [runFrom_bind, runFrom_bind]
  exact bears_conclude.resume fun _ => bears_created

lemma awaits_postResource :
    client.Awaits (Client.resourceUrl client.base path version) Except.error
      (client.postResource path version).runFrom
      ((client.withCredential credential).postResource path version).runFrom :=
  awaits_of_send (fun url => ⟨.post, url, [], some (.json (.object []))⟩)
    (fun response => liftM (bodyOf response)) (fun response => liftM (bodyOf response))
    (fun _ => rfl) (runFrom_postResource client path version)
    (runFrom_postResource (client.withCredential credential) path version)
    fun _ _ => bears_ofExcept

lemma awaits_deleteResource :
    client.Awaits (Client.resourceUrl client.base path version) Except.error
      (client.deleteResource path version).runFrom
      ((client.withCredential credential).deleteResource path version).runFrom := by
  refine awaits_of_send order
    (fun response => client.conclude deletionAccepted response >>= fun _ => return ())
    (fun response => (client.withCredential credential).conclude deletionAccepted response >>=
      fun _ => return ())
    (fun _ => rfl) (fun _ => runFrom_deleteResource_eq) (fun _ => runFrom_deleteResource_eq)
    fun response bearer => ?_
  rw [runFrom_bind, runFrom_bind]
  exact bears_conclude.resume fun _ => bears_done

/-- How a call on a resource is made. -/
lemma awaits_serve (credential : Credential) (h : c.place? client.base = some place) :
    ∃ refuse : Failure → c.Answer, (∀ failure, c.Fails failure (refuse failure)) ∧
      client.Awaits place refuse (c.serve client) (c.serve (client.withCredential credential)) := by
  cases c with
  | get path version =>
    cases h
    exact ⟨Except.error, fun _ => rfl, awaits_getResource⟩
  | put path version body =>
    cases h
    exact ⟨Except.error, fun _ => rfl, awaits_putResource⟩
  | post path version =>
    cases h
    exact ⟨Except.error, fun _ => rfl, awaits_postResource⟩
  | delete path version =>
    cases h
    exact ⟨Except.error, fun _ => rfl, awaits_deleteResource⟩
  | applySecret namespaceName name accountName accountKey => cases h
  | deleteSecret namespaceName name => cases h

/-- How a call on a secret is made: without a token, and whatever the credential is. -/
lemma serve_elsewhere (h : c.place? client.base = none) :
    ∃ program : Program World c.Answer, program.OnlyAsks World.Call.IsOffline ∧
      (∀ token, c.serve client token = program.bind fun r => .done (r, token)) ∧
      ∀ credential token, c.serve (client.withCredential credential) token =
        program.bind fun r => .done (r, token) := by
  cases c with
  | applySecret namespaceName name accountName accountKey =>
    exact ⟨_, AccessSecret.onlyAsks_apply, fun _ => rfl, fun _ _ => rfl⟩
  | deleteSecret namespaceName name =>
    exact ⟨_, AccessSecret.onlyAsks_remove, fun _ => rfl, fun _ _ => rfl⟩
  | get path version => cases h
  | put path version body => cases h
  | post path version => cases h
  | delete path version => cases h

end Awaiting

/-! ### Calls -/

section Calls

variable {client : Client} {bearer : String} {token token' : Option String} {t : Trace World}
  {c : Call} {m : Made}

/-- What a call asks wherever it stands. -/
lemma stands_serve {p : Program World (c.Answer × Option String)}
    (h : (c.serve client token).After t p) : client.Stands c token t := by
  cases hplace : c.place? client.base with
  | none =>
    obtain ⟨program, hasks, hserve, -⟩ := serve_elsewhere hplace
    have hall : (c.serve client token).OnlyAsks World.Call.IsOffline := by
      rw [hserve]
      exact hasks.bind fun _ => trivial
    exact .elsewhere hplace (hall.asked h)
  | some place =>
    obtain ⟨refuse, -, hawaits⟩ := awaits_serve client.credential hplace
    cases token with
    | some bearer => exact .carried ((hawaits.bears bearer).asked h)
    | none =>
      cases place with
      | error failure =>
        rw [hawaits.unaddressed failure none rfl] at h
        obtain ⟨rfl, -⟩ := Program.after_done_iff.1 h
        exact .acquiring (.here _)
      | ok url =>
        rw [hawaits.acquires url rfl] at h
        rcases h.of_bind with ⟨before, after, failure | bearer, rfl, htoken, h⟩ | ⟨⟨p, hp⟩, -⟩
        · obtain ⟨rfl, -⟩ := Program.after_done_iff.1 h
          rw [List.append_nil]
          exact .acquiring htoken
        · exact .acquired htoken ((hawaits.bears bearer).asked h)
        · exact .acquiring hp

/-- A call that was made with a token has kept it. -/
lemma uses_of_yields (h : (m.call.serve client (some bearer)).Yields m.asked (m.answer, token')) :
    client.Uses bearer m ∧ token' = some bearer := by
  cases hplace : m.call.place? client.base with
  | none =>
    obtain ⟨program, hasks, hserve, -⟩ := serve_elsewhere hplace
    rw [hserve] at h
    obtain ⟨answer, hprogram, ⟨⟩⟩ := yields_map_iff.1 h
    exact ⟨.elsewhere hplace (hasks.asked hprogram), rfl⟩
  | some place =>
    obtain ⟨refuse, -, hawaits⟩ := awaits_serve client.credential hplace
    exact ⟨.carried ((hawaits.bears bearer).asked h), (hawaits.bears bearer).kept h⟩

/-- A call that was made without a token still lacks one, or has acquired one. -/
lemma lacks_or_acquires_of_yields
    (h : (m.call.serve client none).Yields m.asked (m.answer, token')) :
    client.Lacks m ∧ token' = none ∨ ∃ bearer, client.Acquires bearer m ∧ token' = some bearer := by
  cases hplace : m.call.place? client.base with
  | none =>
    obtain ⟨program, hasks, hserve, -⟩ := serve_elsewhere hplace
    rw [hserve] at h
    obtain ⟨answer, hprogram, ⟨⟩⟩ := yields_map_iff.1 h
    exact .inl ⟨.elsewhere hplace (hasks.asked hprogram), rfl⟩
  | some place =>
    obtain ⟨refuse, hrefuse, hawaits⟩ := awaits_serve client.credential hplace
    cases place with
    | error failure =>
      rw [hawaits.unaddressed failure none rfl] at h
      obtain ⟨hasked, hreturned⟩ := yields_done_iff.1 h
      obtain ⟨hanswer, rfl⟩ := Prod.mk.inj hreturned
      exact .inl ⟨.unaddressed hplace hasked (hanswer ▸ hrefuse failure), rfl⟩
    | ok url =>
      rw [hawaits.acquires url rfl] at h
      obtain ⟨before, after, failure | bearer, hasked, htoken, h⟩ := yields_bind_iff.1 h
      · obtain ⟨rfl, hreturned⟩ := yields_done_iff.1 h
        obtain ⟨hanswer, rfl⟩ := Prod.mk.inj hreturned
        rw [List.append_nil] at hasked
        exact .inl ⟨.refused hplace (hasked ▸ htoken) (hanswer ▸ hrefuse failure), rfl⟩
      · have hbears := hawaits.bears bearer
        exact .inr ⟨bearer, ⟨url, before, after, hplace, hasked, htoken, hbears.asked h⟩,
          hbears.kept h⟩

/-- What is asked to acquire a token is not asked with one. -/
lemma not_carries_of_acquiring {credential : Credential}
    {p : Program World (Except Failure String)} (h : credential.token.After t p) :
    ∀ e ∈ t, ∀ bearer, ¬ Carries bearer e.call := by
  have hasks : credential.token.OnlyAsks credential.Calls :=
    (ensures_token (B := fun _ _ _ _ => True) (C := fun _ => True) (P := fun _ => True)
      (fun _ _ _ hcalls => ⟨hcalls, fun _ _ _ => trivial⟩) trivial).onlyAsks
  rintro ⟨call, reply⟩ he bearer hcarries
  have hcalls : credential.Calls call := hasks.asked h _ he
  cases hcarries with
  | request hheaders =>
    cases hcalls with
    | request hasks =>
      have hnone := hasks.lookup_authorization
      rw [hheaders] at hnone
      cases hnone
  | clock => cases hcalls
  | sleep duration => cases hcalls

end Calls

/-! ### Runs of calls -/

section Runs

variable {α : Type} {client : Client} {bearer : String} {token token' : Option String}
  {t : Trace World} {made : List Made}

/-- Calls that were made after one another with a token have used it. -/
lemma Client.Serves.uses (h : client.Serves (some bearer) made token') :
    (∀ m ∈ made, client.Uses bearer m) ∧ token' = some bearer := by
  induction made with
  | nil =>
    cases h
    exact ⟨List.forall_mem_nil _, rfl⟩
  | cons m made ih =>
    cases h with
    | cons h hrest =>
      obtain ⟨huses, rfl⟩ := uses_of_yields h
      obtain ⟨hmade, rfl⟩ := ih hrest
      exact ⟨List.forall_mem_cons.2 ⟨huses, hmade⟩, rfl⟩

/-- Calls that were made without a token lack one up to the one that acquires it. -/
lemma Client.Serves.once (h : client.Serves none made token') :
    (∀ m ∈ made, client.Lacks m) ∧ token' = none ∨
      ∃ before m after bearer, made = before ++ m :: after ∧ token' = some bearer ∧
        (∀ m ∈ before, client.Lacks m) ∧ client.Acquires bearer m ∧
          ∀ m ∈ after, client.Uses bearer m := by
  induction made with
  | nil =>
    cases h
    exact .inl ⟨List.forall_mem_nil _, rfl⟩
  | cons m made ih =>
    cases h with
    | cons h hrest =>
      rcases lacks_or_acquires_of_yields h with ⟨hlacks, rfl⟩ | ⟨bearer, hacquires, rfl⟩
      · rcases ih hrest with
          ⟨hmade, rfl⟩ | ⟨before, first, after, bearer, rfl, rfl, hbefore, hfirst, hafter⟩
        · exact .inl ⟨List.forall_mem_cons.2 ⟨hlacks, hmade⟩, rfl⟩
        · exact .inr ⟨m :: before, first, after, bearer, rfl, rfl,
            List.forall_mem_cons.2 ⟨hlacks, hbefore⟩, hfirst, hafter⟩
      · obtain ⟨hmade, rfl⟩ := hrest.uses
        exact .inr ⟨[], m, made, bearer, rfl, rfl, List.forall_mem_nil _, hacquires, hmade⟩

/-- A run over the calls of the adapter goes through calls that were made. -/
lemma performs_interpret {p : Program Api α} {q : Program World (α × Option String)}
    (h : (p.interpret (Call.serve client) token).After t q) : client.Performs p token t q := by
  induction p generalizing token t with
  | done a =>
    obtain ⟨rfl, rfl⟩ := Program.after_done_iff.1 h
    exact .between (.nil token) (.here _)
  | cut =>
    obtain ⟨rfl, rfl⟩ := Program.after_cut_iff.1 h
    exact .between (.nil token) (.here _)
  | ask c next ih =>
    rcases h.of_bind with ⟨asked, rest, ⟨answer, between⟩, rfl, hcall, h⟩ | ⟨⟨x, hx⟩, hq⟩
    · let m : Made := ⟨c, asked, answer⟩
      cases ih answer h with
      | between hmade hp =>
        have hmade' : client.Serves token (m :: _) _ := .cons hcall hmade
        exact .between hmade' (.answered hp)
      | underWay hmade hp hx hq =>
        have hmade' : client.Serves token (m :: _) _ := .cons hcall hmade
        rw [← List.append_assoc]
        exact .underWay hmade' (.answered hp) hx hq
    · have hmade : client.Serves token [] token := .nil token
      exact .underWay hmade (.here _) hx hq

end Runs

/-- A client acquires one token at most. Until then a call that has an address tries to acquire one,
and fails as the acquisition does. From then on every request carries the token, and nothing depends
on the credential. -/
theorem token_acquired_once (client : Client) : client.HasOneToken where
  once _ _ h := h.once
  underWay _ _ _ _ h := stands_serve h
  tried c url hplace := by
    obtain ⟨refuse, hrefuse, hawaits⟩ := awaits_serve client.credential hplace
    exact ⟨refuse, hrefuse, hawaits.acquires url rfl⟩
  unaddressed c failure hplace := by
    obtain ⟨refuse, hrefuse, hawaits⟩ := awaits_serve client.credential hplace
    exact ⟨refuse failure, hrefuse failure, fun token => hawaits.unaddressed failure token rfl⟩
  apart _ _ h := not_carries_of_acquiring h
  kept c bearer credential := by
    cases hplace : c.place? client.base with
    | none =>
      obtain ⟨program, -, hserve, hother⟩ := serve_elsewhere hplace
      rw [hserve, hother]
    | some place =>
      obtain ⟨refuse, -, hawaits⟩ := awaits_serve credential hplace
      exact (hawaits.bears bearer).eq
  shared _ _ _ _ h := performs_interpret h
  handedOn cluster operation token t outcome services h := by
    change ((operation.runFrom client token).bind fun r =>
      .done (r.1, Services.azure cluster client r.2)).Yields t (outcome, services) at h
    obtain ⟨⟨_, token'⟩, hoperation, ⟨⟩⟩ := yields_map_iff.1 h
    exact ⟨token', rfl, performs_interpret hoperation⟩

/-! ### A call without an address -/

section Homeless

/-- A client whose token file cannot be read. -/
def keyless : Client :=
  ⟨managerUrl, .workload authorityHost "tenant" "client" "/nonexistent/token", .forCalls, .forPolls,
    1⟩

/-- Why it cannot be read. -/
def missingFile : String := "No such file or directory (os error 2)"

/-- A call that is refused for that. -/
def refusedCall : Made where
  call := .get "/resource" "1"
  asked := [⟨.readFile "/nonexistent/token", (.error missingFile : Except String String)⟩]
  answer := (.error (.tokenFile "/nonexistent/token" missingFile) : Except Failure Json)

/-- A call without an address. -/
def homelessCall : Made where
  call := .get "//" "1"
  asked := []
  answer := (.error (.invalidUrl "empty host") : Except Failure Json)

/-- A call that acquires a token, or has one already. -/
def shownCall : Made where
  call := .get "/resource" "1"
  asked := answered "token" (inquiry createdUrl) (some showingAnswer)
  answer := (.ok (.bool true) : Except Failure Json)

lemma serves_homelessCall {client : Client} {token : Option String} (h : client.base = managerUrl) :
    (homelessCall.call.serve client token).Yields homelessCall.asked
      (homelessCall.answer, token) := by
  have hjoin : managerUrl.join "//" = .error .emptyHost := by decide +kernel
  have hplace : Client.resourceUrl client.base "//" "1" = .error (.invalidUrl "empty host") := by
    rw [h, Client.resourceUrl, hjoin]
    rfl
  change ((client.getResource "//" "1").runFrom token).Yields _ _
  rw [runFrom_getResource, hplace]
  exact .here _

lemma yields_refusedCall : keyless.credential.token.Yields refusedCall.asked
    (.error (.tokenFile "/nonexistent/token" missingFile)) := by
  change (Credential.workload _ _ _ _).token.Yields _ _
  rw [token_workload]
  exact .answered (.here _)

/-- A call without an address is not tried with another acquisition, though the call before was
refused for want of a token. -/
theorem homelessCall_untried :
    keyless.Serves none [refusedCall, homelessCall] none ∧
    keyless.credential.token.Yields refusedCall.asked
      (.error (.tokenFile "/nonexistent/token" missingFile)) ∧
    ¬ ∃ before after r, homelessCall.asked = before ++ after ∧
      keyless.credential.token.Yields before r := by
  refine ⟨.cons ?_ (.cons (serves_homelessCall rfl) (.nil none)), yields_refusedCall, ?_⟩
  · change ((keyless.getResource "/resource" "1").runFrom none).Yields _ _
    have hplace : Client.resourceUrl keyless.base "/resource" "1" = .ok createdUrl :=
      resourceUrl_created
    rw [runFrom_getResource, hplace]
    exact yields_bind_iff.2 ⟨_, [], _, (List.append_nil _).symm,
      yields_send_of_no_token yields_refusedCall, .here _⟩
  · rintro ⟨before, after, r, hasked, hyields⟩
    obtain ⟨rfl, -⟩ := List.append_eq_nil_iff.1 hasked.symm
    change (Credential.workload _ _ _ _).token.Yields _ _ at hyields
    rw [token_workload] at hyields
    obtain ⟨_, _, ⟨⟩, -⟩ := Program.yields_ask_iff.1 hyields

lemma serves_shownCalls :
    creator.Serves none [homelessCall, shownCall, shownCall] (some "token") := by
  have hawaits : creator.Awaits (Client.resourceUrl creator.base "/resource" "1") Except.error
      (creator.getResource "/resource" "1").runFrom
      ((creator.withCredential creator.credential).getResource "/resource" "1").runFrom :=
    awaits_getResource
  have hacquires : (creator.getResource "/resource" "1").runFrom none =
      (creator.getResource "/resource" "1").runFrom (some "token") :=
    hawaits.acquires createdUrl resourceUrl_created
  have hfirst : (shownCall.call.serve creator none).Yields shownCall.asked
      (shownCall.answer, some "token") := by
    change ((creator.getResource "/resource" "1").runFrom none).Yields _ _
    rw [hacquires]
    exact yields_getResource_created
  exact .cons (serves_homelessCall rfl) (.cons hfirst (.cons yields_getResource_created (.nil _)))

/-- The first call with an address acquires the token, which the next one uses. -/
theorem shownCall_acquires :
    ∃ before m after, [homelessCall, shownCall, shownCall] = before ++ m :: after ∧
      creator.Acquires "token" m ∧ ∀ m ∈ after, creator.Uses "token" m := by
  rcases (token_acquired_once creator).once _ _ serves_shownCalls with
    ⟨-, ⟨⟩⟩ | ⟨before, m, after, bearer, hmade, ⟨⟩, -, hm, hafter⟩
  exact ⟨before, m, after, hmade, hm, hafter⟩

end Homeless

end BucketOperator.Azure
