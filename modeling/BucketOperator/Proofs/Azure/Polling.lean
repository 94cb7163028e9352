import BucketOperator.Proofs.Azure.Sending
import BucketOperator.Proofs.Json.Records

/-!
# Following an operation

A long-running operation is polled until an answer tells of its end. Each poll is a request that
is sent with the token of the client, which has one by then. The polls before the last one have
told that the operation goes on.
-/

namespace BucketOperator.Azure

open Json.Tree (SaysText)
open Program (yields_bind_iff yields_done_iff yields_ask_iff)

/-! ### What documents tell of an operation -/

/-- What fields say of an error. -/
def SaysDetail (field : String → Option Json.Tree) (code message : String) : Prop :=
  SaysText field "code" code ∧ SaysText field "message" message

/-- What a document says of an error. -/
def ErrorDetail.Says (tree : Json.Tree) (code message : String) : Prop :=
  ∃ field, tree.Holds ["code", "message"] field ∧ SaysDetail field code message

/-- What fields say of the status of an operation, with the message of its error. -/
def SaysStatus (field : String → Option Json.Tree) (status message : String) : Prop :=
  field "status" = some (.string (some status)) ∧
    ((field "error" = none ∨ field "error" = some .null) ∧ message = "" ∨
      ∃ detail code, field "error" = some detail ∧ ErrorDetail.Says detail code message)

/-- What a document says of it. -/
def OperationStatus.Says (tree : Json.Tree) (status message : String) : Prop :=
  ∃ field, tree.Holds ["status", "error"] field ∧ SaysStatus field status message

/-- What an answer says of it. -/
def TellsStatus (response : Http.Response) (status message : String) : Prop :=
  ∃ tree, Json.Tree.parse? response.body = some tree ∧ OperationStatus.Says tree status message

section Documents

variable {tree : Json.Tree} {status message : String}

lemma ErrorDetail.read_eq_some_iff {detail : ErrorDetail} :
    ErrorDetail.read tree = some detail ↔ ErrorDetail.Says tree detail.code detail.message := by
  have hread : ErrorDetail.read tree = some detail ↔
      ∃ fields, tree.closedFields? ["code", "message"] = some fields ∧
        SaysDetail (List.lookup · fields) detail.code detail.message := by
    simp only [ErrorDetail.read, Option.bind_eq_bind, Option.bind_eq_some_iff,
      Json.Tree.orElse_readString_iff, Option.pure_def, Option.some.injEq]
    constructor
    · rintro ⟨fields, hfields, code, hcode, message, hmessage, rfl⟩
      exact ⟨fields, hfields, hcode, hmessage⟩
    · rintro ⟨fields, hfields, hcode, hmessage⟩
      exact ⟨fields, hfields, _, hcode, _, hmessage, rfl⟩
  rw [hread]
  refine Json.Tree.exists_closedFields?_iff (SaysDetail · detail.code detail.message) ?_
  intro field field' hsame
  simp only [SaysDetail, SaysText, hsame "code" (by simp), hsame "message" (by simp)]
  exact id

lemma OperationStatus.says_iff : OperationStatus.Says tree status message ↔
    ∃ state, OperationStatus.read tree = some state ∧ state.status = status ∧
      (state.error.map (·.message)).getD "" = message := by
  have hnull : ErrorDetail.read .null = none := rfl
  have hread : (∃ state, OperationStatus.read tree = some state ∧ state.status = status ∧
      (state.error.map (·.message)).getD "" = message) ↔
        ∃ fields, tree.closedFields? ["status", "error"] = some fields ∧
          SaysStatus (List.lookup · fields) status message := by
    simp only [OperationStatus.read, Option.bind_eq_bind, Option.bind_eq_some_iff,
      Json.Tree.required_readString_iff, Json.Tree.optional_eq_some_iff hnull, Option.pure_def,
      Option.some.injEq]
    constructor
    · rintro ⟨_, ⟨fields, hfields, status, hstatus, error, herror, rfl⟩, rfl, rfl⟩
      refine ⟨fields, hfields, hstatus, ?_⟩
      rcases herror with ⟨hnone, rfl⟩ | ⟨tree, detail, htree, hdetail, rfl⟩
      · exact .inl ⟨hnone, rfl⟩
      · exact .inr ⟨tree, detail.code, htree, ErrorDetail.read_eq_some_iff.1 hdetail⟩
    · rintro ⟨fields, hfields, hstatus, ⟨hnone, rfl⟩ | ⟨tree, code, htree, hsays⟩⟩
      · exact ⟨_, ⟨fields, hfields, _, hstatus, none, .inl ⟨hnone, rfl⟩, rfl⟩, rfl, rfl⟩
      · have hdetail : ErrorDetail.read tree = some ⟨code, message⟩ :=
          ErrorDetail.read_eq_some_iff.2 hsays
        exact ⟨_, ⟨fields, hfields, _, hstatus, _, .inr ⟨tree, _, htree, hdetail, rfl⟩, rfl⟩, rfl,
          rfl⟩
  rw [hread]
  refine (Json.Tree.exists_closedFields?_iff (SaysStatus · status message) ?_).symm
  intro field field' hsame
  simp only [SaysStatus, hsame "status" (by simp), hsame "error" (by simp)]
  exact id

lemma tellsStatus_iff {response : Http.Response} : TellsStatus response status message ↔
    ∃ state, (Json.Tree.parse? response.body).bind OperationStatus.read = some state ∧
      state.status = status ∧ (state.error.map (·.message)).getD "" = message := by
  simp only [TellsStatus, OperationStatus.says_iff, Option.bind_eq_some_iff]
  constructor
  · rintro ⟨tree, htree, state, hstate, h⟩
    exact ⟨state, ⟨tree, htree, hstate⟩, h⟩
  · rintro ⟨state, ⟨tree, htree, hstate⟩, h⟩
    exact ⟨tree, htree, state, hstate, h⟩

end Documents

/-! ### What polls tell -/

namespace Operation.Follow

/-- Where an operation is polled. -/
def url : Operation.Follow → Url
  | .status url => url
  | .location url => url

/-- The request of a poll. -/
def poll (operation : Operation.Follow) : Http.Request := ⟨.get, operation.url, [], none⟩

/-- Whether the answer to a poll tells that the operation has ended well. -/
def HasEnded : Operation.Follow → Http.Response → Prop
  | .status _, response => ∃ message, TellsStatus response "Succeeded" message
  | .location _, response => response.status ≠ 202

/-- What is read from the answer to a poll. -/
def progress : Operation.Follow → Http.Response → Except Failure Client.Progress
  | .status _, response =>
    match (Json.Tree.parse? response.body).bind OperationStatus.read with
    | none => .error .transport
    | some state =>
      if state.status = "Succeeded" then .ok .ended
      else if state.status = "Failed" ∨ state.status = "Canceled" then
        .error (.operation state.status ((state.error.map (·.message)).getD ""))
      else .ok .running
  | .location _, response => .ok (if response.status = 202 then .running else .ended)

variable {operation : Operation.Follow} {response : Http.Response}

lemma progress_eq_ended : operation.progress response = .ok .ended ↔
    operation.HasEnded response := by
  cases operation with
  | status url =>
    simp only [progress, HasEnded, tellsStatus_iff]
    cases (Json.Tree.parse? response.body).bind OperationStatus.read with
    | none => simp
    | some state =>
      by_cases hs : state.status = "Succeeded"
      · simp [hs]
      · by_cases hf : state.status = "Failed" ∨ state.status = "Canceled" <;> simp [hs, hf]
  | location url =>
    by_cases hs : response.status = 202 <;> simp [progress, HasEnded, hs]

lemma not_isNotFound_progress {failure : Failure}
    (h : operation.progress response = .error failure) : failure.isNotFound = false := by
  cases operation with
  | status url =>
    simp only [progress] at h
    split at h
    · cases h
      rfl
    · split at h
      · cases h
      · split at h
        · cases h
          rfl
        · cases h
  | location url => cases h

end Operation.Follow

/-- An operation was polled until it had ended well. -/
def WasFollowed (operation : Operation.Follow) (t : Trace World) : Prop :=
  ∃ response : Http.Response, Sent operation.poll response t ∧ response.isSuccess = true ∧
    operation.HasEnded response

/-! ### Polls as programs -/

section Programs

variable {client : Client} {operation : Operation.Follow} {token : Option String}

/-- Poll an operation once. -/
def Client.poll (client : Client) : Operation.Follow → Session Client.Progress
  | .status url => client.pollStatus url
  | .location url => client.pollLocation url

lemma runFrom_poll : (client.poll operation).runFrom token =
    ((client.send operation.poll).runFrom token).bind
      (resume fun response => liftM (operation.progress response)) := by
  cases operation with
  | status url =>
    rw [Client.poll, Client.pollStatus, runFrom_bind]
    congr 2
    funext response
    simp only [Operation.Follow.progress]
    cases (Json.Tree.parse? response.body).bind OperationStatus.read with
    | none => rfl
    | some state =>
      by_cases hs : state.status = "Succeeded"
      · simp only [hs, if_true]
        rfl
      · by_cases hf : state.status = "Failed" ∨ state.status = "Canceled"
        · simp only [hs, hf, if_true, if_false]
          rfl
        · simp only [hs, hf, if_false]
          rfl
  | location url =>
    rw [Client.poll, Client.pollLocation, runFrom_bind]
    rfl

/-- How polling goes on after a poll. -/
def Client.repoll (url : Url) (poll : Session Client.Progress) (start patience : Nat)
    (backoff : Backoff) : Client.Progress → Session Unit
  | .ended => return ()
  | .running => do
    let now ← Session.ofWorld World.clock
    if backoff.isSpent (now - start) then throw (.pollTimeout url.render)
    else
      match backoff.advance? with
      | none => ExceptT.mk (StateT.mk fun _ => .cut)
      | some next =>
        Session.ofWorld (World.sleep backoff.current)
        Client.pollFrom url poll start patience next

lemma runFrom_pollFrom_zero {url : Url} {poll : Session Client.Progress} {start : Nat}
    {backoff : Backoff} : (Client.pollFrom url poll start 0 backoff).runFrom token = .cut := rfl

lemma runFrom_pollFrom_succ {url : Url} {poll : Session Client.Progress} {start patience : Nat}
    {backoff : Backoff} :
    (Client.pollFrom url poll start (patience + 1) backoff).runFrom token =
      (poll.runFrom token).bind (resume (Client.repoll url poll start patience backoff)) := by
  rw [Client.pollFrom, runFrom_bind]
  rfl

lemma runFrom_repoll_running {url : Url} {poll : Session Client.Progress} {start patience : Nat}
    {backoff : Backoff} :
    (Client.repoll url poll start patience backoff .running).runFrom token =
      .ask .clock fun (now : Nat) =>
        if backoff.isSpent (now - start) then .done (.error (.pollTimeout url.render), token)
        else
          match backoff.advance? with
          | none => .cut
          | some next =>
            .ask (.sleep backoff.current) fun _ =>
              (Client.pollFrom url poll start patience next).runFrom token := by
  rw [Client.repoll, runFrom_bind]
  change Program.ask _ _ = Program.ask _ _
  congr 1
  funext (now : Nat)
  change Session.runFrom (if backoff.isSpent (now - start) = true then _ else _) token = _
  cases backoff.isSpent (now - start) with
  | true => rfl
  | false =>
    cases backoff.advance? with
    | none => rfl
    | some next => rfl

lemma runFrom_follow : (client.follow operation).runFrom token =
    .ask .clock fun (start : Nat) =>
      (Client.pollFrom operation.url (client.poll operation) start client.patience
        client.polls).runFrom token := by
  cases operation <;> rfl

end Programs

/-! ### What polling has heard -/

section Polling

variable {client : Client} {operation : Operation.Follow} {token token' : Option String}
  {t u : Trace World} {hasEnded isAbsent : Prop}

/-- What polls have asked, and what their answers tell of the operation. -/
structure Polling (client : Client) (operation : Operation.Follow) (t : Trace World)
    (hasEnded isAbsent : Prop) : Prop where
  requests : ∀ (request : Http.Request) (response : Http.Response), Sent request response t →
    request = operation.poll
  tokens : ¬ client.credential.NotFound t
  ended : hasEnded ↔ WasFollowed operation t
  absent : isAbsent ↔ ∃ response : Http.Response, Sent operation.poll response t ∧
    response.status = 404

lemma polling_nil : Polling client operation [] False False := by
  constructor <;> simp [Sent, Credential.NotFound, WasFollowed]

/-- Passing the time tells nothing. -/
lemma Polling.wait {e : Exchange World} (h : Polling client operation t hasEnded isAbsent)
    (he : ∀ sent, e.call ≠ .http sent) : Polling client operation (e :: t) hasEnded isAbsent := by
  constructor
  · intro request response hsent
    exact h.requests request response ((sent_cons he).1 hsent)
  · rintro ⟨request, response, hasks, hstatus, hmem⟩
    rcases List.mem_cons.1 hmem with rfl | hmem
    · exact he request rfl
    · exact h.tokens ⟨request, response, hasks, hstatus, hmem⟩
  · simp only [h.ended, WasFollowed, sent_cons he]
  · simp only [h.absent, sent_cons he]

/-- Polls that told that the operation goes on leave it to others what becomes of it. -/
lemma Polling.append (h : Polling client operation t False False)
    (hu : Polling client operation u hasEnded isAbsent) :
    Polling client operation (t ++ u) hasEnded isAbsent := by
  constructor
  · intro request response hsent
    exact (sent_append.1 hsent).elim (h.requests request response) (hu.requests request response)
  · rw [notFound_append]
    exact fun hmissing => hmissing.elim h.tokens hu.tokens
  · rw [hu.ended]
    constructor
    · rintro ⟨response, hsent, hended⟩
      exact ⟨response, sent_append.2 (.inr hsent), hended⟩
    · rintro ⟨response, hsent, hended⟩
      rcases sent_append.1 hsent with hsent | hsent
      · exact (h.ended.2 ⟨response, hsent, hended⟩).elim
      · exact ⟨response, hsent, hended⟩
  · rw [hu.absent]
    constructor
    · rintro ⟨response, hsent, hstatus⟩
      exact ⟨response, sent_append.2 (.inr hsent), hstatus⟩
    · rintro ⟨response, hsent, hstatus⟩
      rcases sent_append.1 hsent with hsent | hsent
      · exact (h.absent.2 ⟨response, hsent, hstatus⟩).elim
      · exact ⟨response, hsent, hstatus⟩

lemma judge_progress_eq_ended {answer : Except Failure Http.Response} :
    (judge answer).bind operation.progress = .ok .ended ↔
      ∃ response, answer = .ok response ∧ response.isSuccess = true ∧
        operation.HasEnded response := by
  cases answer with
  | error failure => simp [judge, Except.bind]
  | ok response =>
    simp only [judge, Except.bind, Except.ok.injEq, exists_eq_left']
    by_cases hs : response.isSuccess = true
    · simp [hs, Operation.Follow.progress_eq_ended]
    · simp [hs]

/-- A poll by a client that has a token. -/
lemma polling_poll {r : Except Failure Client.Progress} (htoken : token.isSome = true)
    (h : ((client.poll operation).runFrom token).Yields t (r, token')) :
    Polling client operation t (r = .ok .ended) (IsAbsence r) ∧
      ((∃ progress, r = .ok progress) → token'.isSome = true) := by
  rw [runFrom_poll] at h
  obtain ⟨answer, hsend, rfl⟩ := yields_read_iff.1 h
  rcases yields_send hsend with
    ⟨failure, rfl, hexplains, hnone⟩ |
    ⟨t₁, u, start, bearer, answer, rfl, hexplains, hsending, rfl, rfl⟩
  · cases hnone htoken
    have hfailed : ¬ IsAbsence (.error failure : Except Failure Client.Progress) := by
      intro habsence
      have hmissing := hexplains.2.1 (isAbsence_error.2 (isAbsence_error.1 habsence))
      simp [Credential.NotFound] at hmissing
    simp [Except.bind, hfailed, polling_nil]
  · refine ⟨?_, fun _ => rfl⟩
    have hsent : ∀ {request : Http.Request} {response : Http.Response},
        Sent request response (t₁ ++ ⟨.clock, start⟩ :: u) ↔ Sent request response u := by
      intro request response
      rw [sent_append, or_iff_right (not_sent_of_explains hexplains)]
      exact sent_cons (by rintro _ ⟨⟩)
    constructor
    · intro request response h
      exact hsending.eq_of_sent (hsent.1 h)
    · exact hsending.tokens hexplains
    · rw [judge_progress_eq_ended]
      simp only [WasFollowed, hsent]
      exact (hsending.exists_sent_iff fun _ hq => not_isRetryable_of_isSuccess hq.1).symm
    · rw [isAbsence_judge_bind hsending.lost fun _ _ => Operation.Follow.not_isNotFound_progress]
      simp only [hsent]
      refine (hsending.exists_sent_iff ?_).symm
      intro response hstatus
      rw [hstatus]
      rfl

/-- Polling ends well exactly if a poll told of a good end, and tells of an absence exactly if a
poll was answered with status 404. -/
theorem polling_of_yields {start patience : Nat} {backoff : Backoff} {r : Except Failure Unit}
    (htoken : token.isSome = true)
    (h : ((Client.pollFrom operation.url (client.poll operation) start patience
      backoff).runFrom token).Yields t (r, token')) :
    Polling client operation t (r = .ok ()) (IsAbsence r) := by
  induction patience generalizing backoff token t with
  | zero =>
    rw [runFrom_pollFrom_zero] at h
    exact absurd h Program.not_yields_cut
  | succ patience ih =>
    rw [runFrom_pollFrom_succ] at h
    obtain ⟨t₁, t₂, ⟨progress, current⟩, rfl, hpoll, hrest⟩ := yields_bind_iff.1 h
    obtain ⟨hpolled, hkept⟩ := polling_poll htoken hpoll
    match progress with
    | .error failure =>
      obtain ⟨rfl, ⟨⟩⟩ := yields_done_iff.1 hrest
      rw [List.append_nil]
      simpa using hpolled
    | .ok .ended =>
      obtain ⟨rfl, ⟨⟩⟩ := yields_done_iff.1 hrest
      rw [List.append_nil]
      simpa using hpolled
    | .ok .running =>
      have hrunning : Polling client operation t₁ False False := by simpa using hpolled
      refine hrunning.append ?_
      rw [resume, runFrom_repoll_running] at hrest
      obtain ⟨now, t₃, rfl, hwait⟩ := yields_ask_iff.1 hrest
      refine Polling.wait ?_ (by rintro _ ⟨⟩)
      split at hwait
      · obtain ⟨rfl, ⟨⟩⟩ := yields_done_iff.1 hwait
        simpa [Failure.isNotFound] using polling_nil
      · split at hwait
        · exact absurd hwait Program.not_yields_cut
        · obtain ⟨_, t₄, rfl, hnext⟩ := yields_ask_iff.1 hwait
          exact (ih (hkept ⟨_, rfl⟩) hnext).wait (by rintro _ ⟨⟩)

/-- An operation is followed by polls. -/
lemma polling_follow {r : Except Failure Unit} (htoken : token.isSome = true)
    (h : ((client.follow operation).runFrom token).Yields t (r, token')) :
    Polling client operation t (r = .ok ()) (IsAbsence r) := by
  rw [runFrom_follow] at h
  obtain ⟨start, u, rfl, hpolls⟩ := yields_ask_iff.1 h
  exact (polling_of_yields htoken hpolls).wait (by rintro _ ⟨⟩)

end Polling

end BucketOperator.Azure
