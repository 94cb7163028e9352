import BucketOperator.Proofs.Azure.Polling

/-!
# Guarantees of requests

What a client guarantees when it sends a request or follows an operation, in any world. It is
enough to say what one answer is to end in: an answer that asks for another attempt, or tells that
an operation goes on, leads back to where the request may be sent.
-/

namespace BucketOperator.Azure

open Program (ensures_bind yields_bind_iff Returns)
open Retry (EndsAttempt Idles)

/-- Whether a token can be sent. -/
def IsSendable (token : String) : Prop := Http.isHeaderValue ("Bearer " ++ token) = true

/-- A client has a token that it can send. -/
def IsReady (token : Option String) : Prop := ∃ bearer, IsSendable bearer ∧ token = some bearer

lemma IsReady.isSome {token : Option String} (h : IsReady token) : token.isSome = true := by
  obtain ⟨bearer, _, rfl⟩ := h
  rfl

/-- The calls by which a token is acquired. -/
inductive Credential.Calls (credential : Credential) : World.Call → Prop where
  | file (path : String) : credential.Calls (.readFile path)
  | request {sent : Http.Request} (h : credential.Asks sent) : credential.Calls (.http sent)

section Guarantees

variable {σ α β : Type} {B : Behaviour World σ} {asks : σ → World.Call → Prop} {P C : σ → Prop}
  {client : Client} {credential : Credential} {request : Http.Request} {bearer : String}
  {token : Option String} {s : σ}

/-- How a session goes on with what its first part returned. -/
lemma ensures_resume {f : α → Session β} {p : Program World (Except Failure α × Option String)}
    {R : σ → Except Failure α × Option String → Prop}
    {R' : σ → Except Failure β × Option String → Prop} {D : σ → Prop}
    (h : p.Ensures B asks (Returns R D) s) (hcut : ∀ s, D s → C s)
    (hfailed : ∀ s failure token, R s (.error failure, token) → R' s (.error failure, token))
    (hok : ∀ s a token, R s (.ok a, token) →
      ((f a).runFrom token).Ensures B asks (Returns R' C) s) :
    (p.bind (resume f)).Ensures B asks (Returns R' C) s := by
  rw [ensures_bind]
  refine h.mono (fun _ _ h => h) ?_
  rintro s' (_ | ⟨failure | a, token⟩) hR
  · exact hcut s' hR
  · exact hfailed s' failure token hR
  · exact hok s' a token hR

/-! ### Tokens -/

lemma ensures_requestToken {sent : Except Failure Http.Request} (hs : P s)
    (hsent : ∀ request, sent = .ok request →
      asks s (.http request) ∧ ∀ (reply : Http.Reply) s', B s (.http request) reply s' → P s') :
    (requestToken sent).Ensures B asks (Returns (fun s _ => P s) C) s := by
  cases sent with
  | error failure => exact hs
  | ok request =>
    rw [requestToken_ok]
    exact hsent request rfl

lemma ensures_token
    (htoken : ∀ s c, P s → credential.Calls c → asks s c ∧ ∀ r s', B s c r s' → P s')
    (hs : P s) : credential.token.Ensures B asks (Returns (fun s _ => P s) C) s := by
  cases credential with
  | fixed token => exact hs
  | managed endpoint clientId =>
    rw [Credential.token]
    generalize hsent : metadataRequest endpoint clientId = sent
    refine ensures_requestToken hs ?_
    rintro request rfl
    exact htoken s (.http request) hs (.request hsent)
  | clientSecret authority tenantId clientId secret =>
    rw [Credential.token]
    generalize hsent : secretRequest authority tenantId clientId secret = sent
    refine ensures_requestToken hs ?_
    rintro request rfl
    exact htoken s (.http request) hs (.request hsent)
  | workload authority tenantId clientId tokenFile =>
    rw [token_workload]
    obtain ⟨hask, hnext⟩ := htoken s _ hs (.file tokenFile)
    refine ⟨hask, ?_⟩
    intro (content : Except String String) s' hread
    have hs' : P s' := hnext content s' hread
    cases content with
    | error reason => exact hs'
    | ok assertion =>
      simp only
      generalize hsent : assertionRequest authority tenantId clientId assertion = sent
      refine ensures_requestToken hs' ?_
      rintro request rfl
      exact htoken s' (.http request) hs' (.request ⟨assertion, hsent⟩)

/-! ### Sending -/

/-- What comes of sending a request: an answer is judged where there is a token that can be sent.
Without one the request fails, and a token that was there is kept. -/
def EndsSending (P : σ → Prop) (Q : σ → Except Failure Http.Response → Prop)
    (token : Option String) (s : σ) (x : Except Failure Http.Response × Option String) : Prop :=
  IsReady x.2 ∧ Q s x.1 ∨ ¬ IsReady token ∧ P s ∧ ∃ failure,
    x.1 = .error failure ∧ (token.isSome = true → failure = .transport ∧ x.2 = token)

/-- The attempts that are made with a token. -/
lemma ensures_attempts {Q : σ → Except Failure Http.Response → Prop} (hidle : Idles B asks P)
    (hcut : ∀ s, P s → C s)
    (hask : ∀ s, P s → asks s (.http (bearing request bearer)) ∧
      ∀ (reply : Http.Reply) s', B s (.http (bearing request bearer)) reply s' →
        EndsAttempt B Client.asksAgain P (fun s a => Q s (judge a)) s' (answerOf reply))
    (hs : P s) :
    ((Retry.inWorld (Client.attempt bearer request) (Retry.persist client.patience
      Client.asksAgain client.retries)).bind fun outcome => .done (judge outcome)).Ensures B asks
      (Returns (fun s r => IsSendable bearer ∧ Q s r ∨
        ¬ IsSendable bearer ∧ P s ∧ r = .error .transport) C) s := by
  rw [ensures_bind]
  refine (Retry.ensures_persist (Q := fun s a => IsSendable bearer ∧ Q s (judge a) ∨
    ¬ IsSendable bearer ∧ P s ∧ a = .error .transport) hidle hcut ?_ hs).mono
    (fun _ _ h => h) ?_
  · intro s hs
    rw [attempt_eq]
    split
    next hsendable =>
      obtain ⟨hask, hreply⟩ := hask s hs
      refine ⟨hask, ?_⟩
      intro reply s' hanswered
      obtain ⟨haccepted, hagain⟩ := hreply reply s' hanswered
      refine ⟨fun ha => .inl ⟨hsendable, haccepted ha⟩, ?_⟩
      intro ha
      obtain ⟨hs', hspent⟩ := hagain ha
      exact ⟨hs', fun now s'' hclock => .inl ⟨hsendable, hspent now s'' hclock⟩⟩
    next hsendable => exact ⟨fun _ => .inr ⟨hsendable, hs, rfl⟩, nofun⟩
  · rintro s' (_ | a) h
    · exact h
    · rcases h with h | ⟨hsendable, hs', rfl⟩
      · exact .inl h
      · exact .inr ⟨hsendable, hs', rfl⟩

/-- A request that is sent, from wherever it may be, is sent while its answers ask for that. -/
theorem ensures_send {Q : σ → Except Failure Http.Response → Prop} (hidle : Idles B asks P)
    (hcut : ∀ s, P s → C s)
    (htoken : ∀ s c, P s → client.credential.Calls c → asks s c ∧ ∀ r s', B s c r s' → P s')
    (hask : ∀ s bearer, P s → asks s (.http (bearing request bearer)) ∧
      ∀ (reply : Http.Reply) s', B s (.http (bearing request bearer)) reply s' →
        EndsAttempt B Client.asksAgain P (fun s a => Q s (judge a)) s' (answerOf reply))
    (hs : P s) :
    ((client.send request).runFrom token).Ensures B asks (Returns (EndsSending P Q token) C) s := by
  have hsent : ∀ bearer s, P s → (token.isSome = true → token = some bearer) →
      ((Session.ofOutcome <| (Retry.inWorld (Client.attempt bearer request) (Retry.persist
        client.patience Client.asksAgain client.retries)).bind fun outcome =>
          .done (judge outcome)).runFrom (some bearer)).Ensures B asks
        (Returns (EndsSending P Q token) C) s := by
    intro bearer s hs hsame
    rw [runFrom_ofOutcome, ensures_bind]
    refine (ensures_attempts hidle hcut (fun s hs => hask s bearer hs) hs).mono
      (fun _ _ h => h) ?_
    rintro s' (_ | r) h
    · exact h
    · rcases h with ⟨hsendable, hQ⟩ | ⟨hsendable, hs', rfl⟩
      · exact .inl ⟨⟨bearer, hsendable, rfl⟩, hQ⟩
      · refine .inr ⟨?_, hs', _, rfl, fun hknown => ⟨rfl, (hsame hknown).symm⟩⟩
        rintro ⟨known, hknown, rfl⟩
        cases hsame rfl
        exact hsendable hknown
  rw [runFrom_send]
  cases token with
  | some bearer =>
    rw [runFrom_bearer_some, Program.done_bind]
    exact hsent bearer s hs fun _ => rfl
  | none =>
    rw [runFrom_bearer_none, Program.bind_assoc, ensures_bind]
    refine (ensures_token (C := C) htoken hs).mono (fun _ _ h => h) ?_
    rintro s' (_ | acquired) hs'
    · exact hs'
    · cases acquired with
      | error failure => exact .inr ⟨by rintro ⟨_, _, ⟨⟩⟩, hs', failure, rfl, nofun⟩
      | ok bearer => exact hsent bearer s' hs' nofun

/-! ### Following an operation -/

variable {operation : Operation.Follow} {start patience : Nat} {backoff : Backoff}
  {Q : σ → Except Failure Unit → Prop}

/-- What a poll is to end in. One that tells that the operation goes on is either followed by one,
or is the last one once the time was read. -/
def EndsPoll (B : Behaviour World σ) (url : Url) (P : σ → Prop) (Q : σ → Except Failure Unit → Prop)
    (s : σ) : Except Failure Client.Progress → Prop
  | .error failure => Q s (.error failure)
  | .ok .ended => Q s (.ok ())
  | .ok .running =>
    P s ∧ ∀ (now : Nat) s', B s .clock now s' → Q s' (.error (.pollTimeout url.render))

/-- What a poll guarantees wherever one is made is guaranteed by polling. -/
lemma ensures_pollFrom (hidle : Idles B asks P) (hcut : ∀ s, P s → C s)
    (hpoll : ∀ s token, P s → IsReady token → ((client.poll operation).runFrom token).Ensures B asks
      (Returns (fun s x => IsReady x.2 ∧ EndsPoll B operation.url P Q s x.1) C) s)
    (htoken : IsReady token) (hs : P s) :
    ((Client.pollFrom operation.url (client.poll operation) start patience
      backoff).runFrom token).Ensures B asks (Returns (fun s x => IsReady x.2 ∧ Q s x.1) C) s := by
  induction patience generalizing s token backoff with
  | zero => exact hcut s hs
  | succ patience ih =>
    rw [runFrom_pollFrom_succ]
    refine ensures_resume (hpoll s token hs htoken) (fun _ h => h) (fun _ _ _ h => h) ?_
    rintro s₁ progress token₁ ⟨htoken₁, hends⟩
    cases progress with
    | ended => exact ⟨htoken₁, hends⟩
    | running =>
      obtain ⟨hs₁, hspent⟩ := hends
      rw [runFrom_repoll_running]
      obtain ⟨hask, hnext⟩ := hidle.clock s₁ hs₁
      refine ⟨hask, ?_⟩
      intro (now : Nat) s₂ hnow
      have hs₂ : P s₂ := hnext now s₂ hnow
      change Program.Ensures B asks _ (if backoff.isSpent (now - start) = true then _ else _) s₂
      split
      · exact ⟨htoken₁, hspent now s₂ hnow⟩
      · split
        · exact hcut s₂ hs₂
        · obtain ⟨hask, hnext⟩ := hidle.sleep s₂ backoff.current hs₂
          refine ⟨hask, ?_⟩
          intro r s₃ hslept
          exact ih htoken₁ (hnext r s₃ hslept)

/-- An operation that is followed, from wherever it may be polled, is polled while its polls tell
that it goes on. -/
theorem ensures_follow (hidle : Idles B asks P) (hcut : ∀ s, P s → C s)
    (htoken : ∀ s c, P s → client.credential.Calls c → asks s c ∧ ∀ r s', B s c r s' → P s')
    (hask : ∀ s bearer, P s → asks s (.http (bearing operation.poll bearer)) ∧
      ∀ (reply : Http.Reply) s', B s (.http (bearing operation.poll bearer)) reply s' →
        EndsAttempt B Client.asksAgain P
          (fun s a => EndsPoll B operation.url P Q s ((judge a).bind operation.progress)) s'
          (answerOf reply))
    (hready : IsReady token) (hs : P s) :
    ((client.follow operation).runFrom token).Ensures B asks
      (Returns (fun s x => IsReady x.2 ∧ Q s x.1) C) s := by
  rw [runFrom_follow]
  obtain ⟨hclock, hnext⟩ := hidle.clock s hs
  refine ⟨hclock, ?_⟩
  intro (now : Nat) s' hnow
  refine ensures_pollFrom hidle hcut ?_ hready (hnext now s' hnow)
  intro s token hs hready
  rw [runFrom_poll]
  refine ensures_resume (ensures_send (Q := fun s r =>
    EndsPoll B operation.url P Q s (r.bind operation.progress)) hidle hcut htoken hask hs)
    (fun _ h => h) ?_ ?_
  · rintro s failure token (h | ⟨hunready, _⟩)
    · exact h
    · exact absurd hready hunready
  · rintro s response token (⟨hready, hends⟩ | ⟨hunready, _⟩)
    · rw [runFrom_ofExcept]
      exact ⟨hready, hends⟩
    · exact absurd hready hunready

end Guarantees

/-! ### A request that is answered at once -/

/-- A request is sent with a token and answered. -/
def answered (bearer : String) (request : Http.Request) (reply : Http.Reply) : Trace World :=
  [⟨.clock, (0 : Nat)⟩, ⟨.http (bearing request bearer), reply⟩]

/-- A client that may make an attempt makes one, and passes on what that is worth. -/
lemma yields_send_answered {client : Client} {request : Http.Request} {bearer : String}
    {reply : Http.Reply} {patience : Nat} (hpatience : client.patience = patience + 1)
    (hbearer : IsSendable bearer) (hreply : Client.asksAgain (answerOf reply) = false) :
    ((client.send request).runFrom (some bearer)).Yields (answered bearer request reply)
      (judge (answerOf reply), some bearer) := by
  have hattempt : (Client.attempt bearer request).Yields [⟨.http (bearing request bearer), reply⟩]
      (answerOf reply) := by
    rw [attempt_eq, if_pos (show Http.isHeaderValue ("Bearer " ++ bearer) = true from hbearer)]
    exact .answered (.here _)
  have hlast : Retry.proceed (Client.attempt bearer request) Client.asksAgain 0 patience
      client.retries (answerOf reply) = .done (answerOf reply) := by
    rw [Retry.proceed, if_neg (Bool.eq_false_iff.1 hreply)]
  have hattempts : (Retry.inWorld (Client.attempt bearer request) (Retry.persist client.patience
      Client.asksAgain client.retries)).Yields (answered bearer request reply)
        (answerOf reply) := by
    rw [Retry.inWorld_persist, hpatience]
    refine .answered ?_
    rw [Retry.inWorld_attemptFrom_succ]
    exact yields_bind_iff.2 ⟨_, [], _, rfl, hattempt, hlast ▸ .here _⟩
  rw [runFrom_send, runFrom_bearer_some, Program.done_bind, resume, runFrom_ofOutcome,
    Program.bind_assoc]
  exact yields_bind_iff.2 ⟨_, [], _, rfl, hattempts, .here _⟩

end BucketOperator.Azure
