import BucketOperator.Proofs.Azure.Repeating

/-!
# How a change concludes

A change is made by its request. When the answer starts an operation, it is followed with the token
of the request. A creation then returns what the answer reads, or, after an operation, what the
resource reads. A deletion reads nothing. An operation that goes on is polled until a backoff is
spent: the one of polls, or the one of the request that the last poll is.
-/

namespace BucketOperator.Azure

open Program (recorded Returns yields_done_iff)
open Retry (Persists Repeated Round)

/-! ### The law of changes -/

/-- What a success says of an operation whose place is no URL. -/
inductive Misleads (accepted : List Nat) (answer : Http.Response) (failure : Failure) : Prop where
  | status {text : String} (hsuccess : answer.isSuccess = true) (hstatus : answer.status ∈ accepted)
      (htext : answer.header? "azure-asyncoperation" = some text)
      (hurl : parseUrl text = .error failure) : Misleads accepted answer failure
  | location {text : String} (hsuccess : answer.isSuccess = true)
      (hstatus : answer.status ∈ accepted) (haccepted : answer.status = 202)
      (hnone : answer.header? "azure-asyncoperation" = none)
      (htext : answer.header? "location" = some text) (hurl : parseUrl text = .error failure) :
      Misleads accepted answer failure

/-- What becomes of a success: an operation that it starts is followed with a token. -/
inductive Client.Settles (client : Client) (accepted : List Nat) (answer : Http.Response)
    (bearer : String) :
    Trace World → Except Failure (Http.Response × Option Operation.Follow) → Prop where
  | misled {failure : Failure} (h : Misleads accepted answer failure) :
      Settles client accepted answer bearer [] (.error failure)
  | finished (h : Starts accepted answer none) :
      Settles client accepted answer bearer [] (.ok (answer, none))
  | followed {operation : Operation.Follow} {t : Trace World} {r : Except Failure Unit}
      (h : Starts accepted answer (some operation))
      (hfollow : client.Follows operation bearer t r) :
      Settles client accepted answer bearer t (r.map fun _ => (answer, some operation))

/-- A change is made by its request and by what becomes of its success. -/
inductive Client.Changes (client : Client) (request : Http.Request) (accepted : List Nat)
    (token : Option String) : Trace World →
      Except Failure (Http.Response × Option Operation.Follow) → Option String → Prop where
  | refused {t : Trace World} {failure : Failure} {token' : Option String}
      (h : client.Passes request token t (.error failure) token') :
      Changes client request accepted token t (.error failure) token'
  | granted {t u : Trace World} {answer : Http.Response} {bearer : String}
      {x : Except Failure (Http.Response × Option Operation.Follow)}
      (h : client.Passes request token t (.ok answer) (some bearer))
      (hsettles : client.Settles accepted answer bearer u x) :
      Changes client request accepted token (t ++ u) x (some bearer)

/-- A creation returns what the answer to it reads, or, when that started an operation, what the
resource reads after its end. -/
inductive Client.Creates (client : Client) (url : Url) (body : Json) (token : Option String) :
    Trace World → Except Failure Json → Option String → Prop where
  | failed {t : Trace World} {failure : Failure} {token' : Option String}
      (h : client.Changes (creation url body) creationAccepted token t (.error failure) token') :
      Creates client url body token t (.error failure) token'
  | finished {t : Trace World} {answer : Http.Response} {r : Except Failure Json}
      {token' : Option String}
      (h : client.Changes (creation url body) creationAccepted token t (.ok (answer, none)) token')
      (hreads : Reads answer r) : Creates client url body token t r token'
  | unread {t u : Trace World} {answer : Http.Response} {operation : Operation.Follow}
      {failure : Failure} {current token' : Option String}
      (h : client.Changes (creation url body) creationAccepted token t
        (.ok (answer, some operation)) current)
      (hinquiry : client.Passes (inquiry url) current u (.error failure) token') :
      Creates client url body token (t ++ u) (.error failure) token'
  | read {t u : Trace World} {answer final : Http.Response} {operation : Operation.Follow}
      {r : Except Failure Json} {current token' : Option String}
      (h : client.Changes (creation url body) creationAccepted token t
        (.ok (answer, some operation)) current)
      (hinquiry : client.Passes (inquiry url) current u (.ok final) token')
      (hreads : Reads final r) : Creates client url body token (t ++ u) r token'

/-- A deletion is done when the change is made. -/
def Client.Deletes (client : Client) (url : Url) (token : Option String) (t : Trace World)
    (r : Except Failure Unit) (token' : Option String) : Prop :=
  ∃ x, client.Changes (order url) deletionAccepted token t x token' ∧ r = x.map fun _ => ()

/-- An operation that goes on is polled until a backoff is spent: the one of polls, or the one of
the request that the last poll is. -/
inductive Client.WearsOut (client : Client) (operation : Operation.Follow) (bearer : String) :
    Trace World → Prop where
  | polls {t : Trace World} (h : Persists (client.Polls operation bearer) (· = .ok .running)
      client.polls client.patience t (.spent (.ok .running))) : WearsOut client operation bearer t
  | request {start : Nat} {rounds : List (Round (Except Failure Client.Progress))} {left : Backoff}
      {u : Trace World} {outcome : Except Failure Http.Response}
      (hlength : rounds.length < client.patience)
      (hrounds : Repeated (client.Polls operation bearer) (· = .ok .running) start client.polls
        rounds left)
      (hlast : Persists (Attempted operation.poll bearer) IsThrottled client.retries
        client.patience u (.spent outcome)) :
      WearsOut client operation bearer
        (⟨.clock, start⟩ :: (rounds.flatMap Round.exchanges ++ u))

/-! ### Changes obey the law -/

section Laws

variable {client : Client} {request : Http.Request} {accepted : List Nat}
  {token token' : Option String} {t : Trace World} {answer : Http.Response} {bearer : String}
  {x : Except Failure (Http.Response × Option Operation.Follow)}

lemma misleads_iff {failure : Failure} : Misleads accepted answer failure ↔
    answer.isSuccess = true ∧ operationOf accepted answer = .error failure := by
  rw [operationOf]
  constructor
  · intro h
    cases h with
    | status hsuccess hstatus htext hurl =>
      rw [if_pos hstatus, startedOperation?_of_status htext, hurl]
      exact ⟨hsuccess, rfl⟩
    | location hsuccess hstatus haccepted hnone htext hurl =>
      rw [if_pos hstatus, startedOperation?_of_location haccepted hnone htext, hurl]
      exact ⟨hsuccess, rfl⟩
  · rintro ⟨hsuccess, h⟩
    by_cases hstatus : answer.status ∈ accepted
    · rw [if_pos hstatus] at h
      rcases names_place answer with ⟨text, htext⟩ | ⟨hnone, ⟨text, haccepted, htext⟩ | hlocation⟩
      · rw [startedOperation?_of_status htext] at h
        cases hurl : parseUrl text <;> rw [hurl] at h <;> cases h
        exact .status hsuccess hstatus htext hurl
      · rw [startedOperation?_of_location haccepted hnone htext] at h
        cases hurl : parseUrl text <;> rw [hurl] at h <;> cases h
        exact .location hsuccess hstatus haccepted hnone htext hurl
      · rw [startedOperation?_of_nowhere hnone hlocation] at h
        cases h
    · rw [if_neg hstatus] at h
      cases h

lemma Client.Passes.fares {r : Except Failure Http.Response}
    (h : client.Passes request token t r token') : Fares request [] t (r, token') := by
  have hsend : ((client.send request).runFrom token).Ensures (recorded World) (fun _ _ => True)
      (Returns (Fares request []) fun t => finals t = []) [] :=
    fares_of_send (fun _ _ _ _ => trivial) rfl
  exact hsend.ended (yields_send_iff.2 h)

/-- A request that is granted is one turn, and was sent with a token that is kept. -/
lemma Client.Passes.granted (h : client.Passes request token t (.ok answer) token') :
    answer.isSuccess = true ∧ finals t = [(request, some answer)] ∧ IsReady token' := by
  cases h.fares with
  | final hready hfinals hr =>
    obtain ⟨rfl, hsuccess⟩ := judge_eq_ok.1 hr
    exact ⟨hsuccess, hfinals, hready⟩

lemma yields_conclude_iff (hsuccess : answer.isSuccess = true) :
    ((client.conclude accepted answer).runFrom (some bearer)).Yields t (x, token') ↔
      client.Settles accepted answer bearer t x ∧ token' = some bearer := by
  rw [runFrom_conclude]
  constructor
  · rcases hoperation : operationOf accepted answer with failure | _ | operation
    · intro h
      obtain ⟨rfl, ⟨⟩⟩ := yields_done_iff.1 h
      exact ⟨.misled (misleads_iff.2 ⟨hsuccess, hoperation⟩), rfl⟩
    · intro h
      obtain ⟨rfl, ⟨⟩⟩ := yields_done_iff.1 h
      exact ⟨.finished (starts_iff.2 ⟨hsuccess, hoperation⟩), rfl⟩
    · intro h
      obtain ⟨r, hyields, rfl⟩ := yields_read_iff.1 h
      obtain ⟨hfollow, rfl⟩ := yields_follow_iff.1 hyields
      exact ⟨.followed (starts_iff.2 ⟨hsuccess, hoperation⟩) hfollow, rfl⟩
  · rintro ⟨h, rfl⟩
    cases h with
    | misled h =>
      rw [(misleads_iff.1 h).2]
      exact .here _
    | finished h =>
      rw [(starts_iff.1 h).2]
      exact .here _
    | followed h hfollow =>
      rw [(starts_iff.1 h).2]
      exact yields_read_iff.2 ⟨_, yields_follow_iff.2 ⟨hfollow, rfl⟩, rfl⟩

lemma yields_changes_iff : (((client.send request).runFrom token).bind
    (resume (client.conclude accepted))).Yields t (x, token') ↔
      client.Changes request accepted token t x token' := by
  rw [yields_resume_iff]
  simp only [yields_send_iff]
  constructor
  · rintro (⟨failure, h, rfl⟩ | ⟨t₁, t₂, answer, current, rfl, h, hconclude⟩)
    · exact .refused h
    · obtain ⟨hsuccess, -, bearer, -, rfl⟩ := h.granted
      obtain ⟨hsettles, rfl⟩ := (yields_conclude_iff hsuccess).1 hconclude
      exact .granted h hsettles
  · intro h
    cases h with
    | refused h => exact .inl ⟨_, h, rfl⟩
    | granted h hsettles =>
      exact .inr ⟨_, _, _, _, rfl, h, (yields_conclude_iff h.granted.1).2 ⟨hsettles, rfl⟩⟩

/-- What follows a change has run after it, unless the change failed. -/
lemma yields_after_change_iff {α : Type} {k : Http.Response × Option Operation.Follow → Session α}
    {outcome : Except Failure α} :
    (((client.send request).runFrom token).bind (resume fun response =>
      client.conclude accepted response >>= k)).Yields t (outcome, token') ↔
      (∃ failure, client.Changes request accepted token t (.error failure) token' ∧
        outcome = .error failure) ∨
      ∃ t₁ t₂ made current, t = t₁ ++ t₂ ∧
        client.Changes request accepted token t₁ (.ok made) current ∧
        ((k made).runFrom current).Yields t₂ (outcome, token') := by
  have hsplit : ((client.send request).runFrom token).bind (resume fun response =>
      client.conclude accepted response >>= k) =
        (((client.send request).runFrom token).bind (resume (client.conclude accepted))).bind
          (resume k) := by
    rw [resume_bind]
    congr 2
    funext response
    exact funext fun token => runFrom_bind _ _ token
  rw [hsplit, yields_resume_iff]
  simp only [yields_changes_iff]

end Laws

section Creations

variable {client : Client} {path version : String} {url : Url} {body : Json}
  {token token' : Option String} {t : Trace World}

lemma yields_getResource_iff (hurl : Client.resourceUrl client.base path version = .ok url)
    {r : Except Failure Json} :
    ((client.getResource path version).runFrom token).Yields t (r, token') ↔
      ∃ answer, client.Passes (inquiry url) token t answer token' ∧ r = answer.bind bodyOf := by
  rw [runFrom_getResource, hurl]
  simp only [yields_read_iff, ← yields_send_iff]
  rfl

lemma yields_putResource_iff (hurl : Client.resourceUrl client.base path version = .ok url)
    {r : Except Failure Json} :
    ((client.putResource path version body).runFrom token).Yields t (r, token') ↔
      client.Creates url body token t r token' := by
  rw [runFrom_putResource, hurl]
  simp only [yields_after_change_iff]
  constructor
  · rintro (⟨failure, h, rfl⟩ | ⟨t, u, ⟨answer, _ | operation⟩, current, rfl, h, hcreated⟩)
    · exact .failed h
    · rw [Client.created, runFrom_ofExcept] at hcreated
      obtain ⟨rfl, ⟨⟩⟩ := yields_done_iff.1 hcreated
      rw [List.append_nil]
      exact .finished h (reads_iff.2 rfl)
    · obtain ⟨failure | final, hinquiry, rfl⟩ := (yields_getResource_iff hurl).1 hcreated
      · exact .unread h hinquiry
      · exact .read h hinquiry (reads_iff.2 rfl)
  · intro h
    cases h with
    | failed h => exact .inl ⟨_, h, rfl⟩
    | finished h hreads =>
      refine .inr ⟨t, [], _, _, (List.append_nil t).symm, h, ?_⟩
      rw [Client.created, runFrom_ofExcept, reads_iff.1 hreads]
      exact .here _
    | unread h hinquiry =>
      exact .inr ⟨_, _, _, _, rfl, h, (yields_getResource_iff hurl).2 ⟨_, hinquiry, rfl⟩⟩
    | read h hinquiry hreads =>
      exact .inr ⟨_, _, _, _, rfl, h,
        (yields_getResource_iff hurl).2 ⟨_, hinquiry, reads_iff.1 hreads⟩⟩

lemma yields_deleteResource_iff (hurl : Client.resourceUrl client.base path version = .ok url)
    {r : Except Failure Unit} :
    ((client.deleteResource path version).runFrom token).Yields t (r, token') ↔
      client.Deletes url token t r token' := by
  rw [runFrom_deleteResource_eq, hurl]
  simp only [yields_after_change_iff]
  constructor
  · rintro (⟨failure, h, rfl⟩ | ⟨t, u, made, current, rfl, h, hdone⟩)
    · exact ⟨_, h, rfl⟩
    · obtain ⟨rfl, ⟨⟩⟩ := yields_done_iff.1 hdone
      rw [List.append_nil]
      exact ⟨_, h, rfl⟩
  · rintro ⟨failure | made, h, rfl⟩
    · exact .inl ⟨failure, h, rfl⟩
    · exact .inr ⟨t, [], made, token', (List.append_nil t).symm, h, .here _⟩

end Creations

/-! ### Operations that go on -/

section WearingOut

variable {client : Client} {request : Http.Request} {accepted : List Nat}
  {operation : Operation.Follow} {bearer : String} {token token' : Option String} {t : Trace World}
  {answer : Http.Response} {turns : List Turn}
  {x : Except Failure (Http.Response × Option Operation.Follow)}

/-- Where attempts settle, the last one is a turn. -/
lemma exists_mem_finals {backoff : Backoff} {patience : Nat}
    {outcome : Except Failure Http.Response} (hbearer : IsSendable bearer)
    (h : Persists (Attempted request bearer) IsThrottled backoff patience t (.settled outcome)) :
    ∃ reply, outcome = answerOf reply ∧ (request, reply) ∈ finals t := by
  obtain ⟨before, last, after, rfl, hlast, -⟩ := h.exists_last
  have hmem : ∀ reply, outcome = answerOf reply →
      last = [⟨.http (bearing request bearer), reply⟩] →
      (request, reply) ∈ finals (before ++ last ++ after) := by
    rintro reply rfl rfl
    have hfinal : ¬ Client.asksAgain (answerOf reply) = true := by
      rw [congrFun asksAgain_eq_isThrottled (answerOf reply)]
      exact h.not_again
    refine List.mem_filterMap.2 ⟨⟨.http (bearing request bearer), reply⟩, by simp, ?_⟩
    rw [final?_bearing, if_neg hfinal]
  cases hlast with
  | answered _ response => exact ⟨some response, rfl, hmem _ rfl rfl⟩
  | lost => exact ⟨none, rfl, hmem none rfl rfl⟩
  | unsent hunsendable => exact absurd hbearer hunsendable

/-- Where the last poll asks for no other one, although its turns tell that the operation goes on,
the request that it is has spent its backoff. -/
lemma wearsOut_of_settled {told : Except Failure Client.Progress} (hbearer : IsSendable bearer)
    (hturns : ∀ turn ∈ finals t, operation.read turn.2 = .ok .running)
    (h : Persists (client.Polls operation bearer) (· = .ok .running) client.polls client.patience t
      (.settled told)) :
    client.WearsOut operation bearer t ∧ ∃ failure, told = .error failure := by
  obtain ⟨start, rounds, u, rfl, hlength, hobeys⟩ := h
  cases hobeys with
  | @settled left last _ hrounds hlast hover =>
    obtain ⟨r, ⟨ending, hattempts, hreports⟩, rfl⟩ := hlast
    rw [reports_iff.1 hreports] at hover ⊢
    cases ending with
    | settled outcome =>
      obtain ⟨reply, rfl, hmem⟩ := exists_mem_finals hbearer hattempts
      refine absurd (hturns (operation.poll, reply) ?_) hover
      change _ ∈ finals (rounds.flatMap Round.exchanges ++ last)
      rw [finals_append]
      exact List.mem_append_right _ hmem
    | spent outcome =>
      refine ⟨.request hlength hrounds hattempts, ?_⟩
      obtain ⟨response, rfl, hstatus⟩ := hattempts.again
      have hagain : Client.asksAgain (answerOf (some response)) = true := by
        rw [congrFun asksAgain_eq_isThrottled (answerOf (some response))]
        exact ⟨response, rfl, hstatus⟩
      obtain ⟨failure, hfailure⟩ := judge_of_asksAgain hagain
      exact ⟨failure, congrArg (Except.bind · operation.progress) hfailure⟩

/-- An operation whose polls tell that it goes on is polled until a backoff is spent. -/
lemma Client.Follows.wearsOut {r : Except Failure Unit} (h : client.Follows operation bearer t r)
    (hbearer : IsSendable bearer)
    (hturns : ∀ turn ∈ finals t, operation.read turn.2 = .ok .running) :
    client.WearsOut operation bearer t ∧ ∃ failure, r = .error failure := by
  obtain ⟨ending, hpolls, hconcludes⟩ := h
  cases hconcludes with
  | spent => exact ⟨.polls hpolls, _, rfl⟩
  | failed failure => exact ⟨(wearsOut_of_settled hbearer hturns hpolls).1, failure, rfl⟩
  | ended =>
    obtain ⟨-, failure, ⟨⟩⟩ := wearsOut_of_settled hbearer hturns hpolls

/-- A change that was made begins with the turn of its request. -/
lemma Client.Changes.exists_turns {made : Http.Response × Option Operation.Follow}
    (h : client.Changes request accepted token t (.ok made) token') :
    ∃ answer turns, finals t = (request, some answer) :: turns := by
  cases h with
  | @granted t u answer bearer _ hpasses hsettles =>
    obtain ⟨-, hfinals, -⟩ := hpasses.granted
    exact ⟨answer, finals u, by rw [finals_append, hfinals]; rfl⟩

/-- A change whose operation goes on is given up when a backoff is spent. -/
lemma Client.Changes.wearsOut (h : client.Changes request accepted token t x token')
    (hstarts : Starts accepted answer (some operation))
    (ht : finals t = (request, some answer) :: turns)
    (hturns : ∀ turn ∈ turns, operation.read turn.2 = .ok .running) :
    (∃ failure, x = .error failure) ∧ ∃ before after bearer, t = before ++ after ∧
      finals before = [(request, some answer)] ∧ client.WearsOut operation bearer after := by
  cases h with
  | refused hpasses =>
    cases hpasses.fares with
    | final hready hfinals hr =>
      rw [hfinals] at ht
      cases ht
      rw [hstarts.judge_eq] at hr
      cases hr
    | unanswered hfinals =>
      rw [hfinals] at ht
      cases ht
  | @granted t u answer' bearer _ hpasses hsettles =>
    obtain ⟨-, hfinals, _, hbearer, ⟨⟩⟩ := hpasses.granted
    rw [finals_append, hfinals] at ht
    cases ht
    cases hsettles with
    | misled hmisleads =>
      have hoperation := (misleads_iff.1 hmisleads).2
      rw [(starts_iff.1 hstarts).2] at hoperation
      cases hoperation
    | finished hnone => cases hnone.unique hstarts
    | followed hsome hfollow =>
      cases hsome.unique hstarts
      obtain ⟨hwears, failure, rfl⟩ := hfollow.wearsOut hbearer hturns
      exact ⟨⟨failure, rfl⟩, t, u, bearer, rfl, hfinals, hwears⟩

/-- A run makes a change, and is over if that fails. -/
def Client.Undertakes (client : Client) (request : Http.Request) (accepted : List Nat)
    (token : Option String) (t : Trace World) : Prop :=
  ∃ u v x current, t = u ++ v ∧ client.Changes request accepted token u x current ∧
    ∀ failure, x = .error failure → v = []

lemma Client.Creates.undertakes {url : Url} {body : Json} {r : Except Failure Json}
    (h : client.Creates url body token t r token') :
    client.Undertakes (creation url body) creationAccepted token t := by
  cases h with
  | failed h => exact ⟨t, [], _, _, (List.append_nil t).symm, h, fun _ _ => rfl⟩
  | finished h => exact ⟨t, [], _, _, (List.append_nil t).symm, h, fun _ _ => rfl⟩
  | unread h => exact ⟨_, _, _, _, rfl, h, nofun⟩
  | read h => exact ⟨_, _, _, _, rfl, h, nofun⟩

lemma Client.Deletes.undertakes {url : Url} {r : Except Failure Unit}
    (h : client.Deletes url token t r token') :
    client.Undertakes (order url) deletionAccepted token t := by
  obtain ⟨x, h, -⟩ := h
  exact ⟨t, [], x, _, (List.append_nil t).symm, h, fun _ _ => rfl⟩

/-- What is over although its operation goes on has polled that until a backoff was spent. -/
lemma Client.Undertakes.wearsOut (h : client.Undertakes request accepted token t)
    (hstarts : Starts accepted answer (some operation))
    (ht : finals t = (request, some answer) :: turns)
    (hturns : ∀ turn ∈ turns, operation.read turn.2 = .ok .running) :
    ∃ before after bearer, t = before ++ after ∧ finals before = [(request, some answer)] ∧
      client.WearsOut operation bearer after := by
  obtain ⟨u, v, failure | made, current, rfl, hchanges, hover⟩ := h
  · cases hover failure rfl
    rw [List.append_nil] at ht ⊢
    exact (hchanges.wearsOut hstarts ht hturns).2
  · obtain ⟨answer', turns', hfinals⟩ := hchanges.exists_turns
    rw [finals_append, hfinals] at ht
    cases ht
    obtain ⟨⟨failure, ⟨⟩⟩, -⟩ := hchanges.wearsOut hstarts hfinals
      fun turn hturn => hturns turn (List.mem_append_left _ hturn)

end WearingOut

end BucketOperator.Azure
