import BucketOperator.Proofs.Azure.Concluding

/-!
# Long-running operations

A change counts as done when its final answer starts no operation, or when the operation was polled
until a poll told of its good end. Whatever comes of it, the request is not sent again once it has
been answered finally, and an operation that goes on is given up only when a backoff is spent.
-/

namespace BucketOperator.Azure

open Program (recorded Returns Ensures yields_bind_iff)

-- What these sessions ask for is told by lemmas and must not be computed.
attribute [local irreducible] Client.getResource Client.putResource Client.deleteResource

/-! ### Where a change stands -/

/-- The only change that is asked for is one that has not been answered finally. -/
def Heeds (request : Http.Request) (t : Trace World) (c : World.Call) : Prop :=
  IsChange c → finals t = [] ∧ ∃ bearer, c = .http (bearing request bearer)

/-- A change is still being made, or its operation has come to a good end. -/
def IsPending (request : Http.Request) (accepted : List Nat) (turns : List Turn) : Prop :=
  IsUnderWay request accepted turns ∨
    ∃ answer operation, Completed request accepted turns answer (some operation)

/-- A change was given up, or it was made and `After` tells what followed. -/
def Ends {α : Type} (request : Http.Request) (accepted : List Nat)
    (After : Http.Response → Option Operation.Follow → List Turn → Except Failure α → Prop)
    (t : Trace World) (x : Except Failure α × Option String) : Prop :=
  (∃ failure, x.1 = .error failure ∧
    GivenUp request accepted (finals t) failure) ∨
  ∃ turns extra answer operation, finals t = turns ++ extra ∧
    Completed request accepted turns answer operation ∧ After answer operation extra x.1

/-- A program makes one change, and asks for it until it is answered finally. -/
def Makes {α : Type} (request : Http.Request) (accepted : List Nat)
    (After : Http.Response → Option Operation.Follow → List Turn → Except Failure α → Prop)
    (p : Program World (Except Failure α × Option String)) : Prop :=
  p.Ensures (recorded World)
    (fun t c => Heeds request t c ∧ IsPending request accepted (finals t))
    (Returns (Ends request accepted After) fun t => IsPending request accepted (finals t)) []

section Changes

variable {client : Client} {path version : String} {body : Json} {url : Url}
  {token : Option String} {request : Http.Request} {t : Trace World} {c : World.Call}

lemma heeds_of_get {credential : Credential} {question : Http.Request}
    (hmethod : question.method = .get) (h : credential.Sends question c) : Heeds request t c :=
  fun hc => absurd hc (not_isChange_of_sends hmethod h)

/-- The calls of a change are allowed while it is under way. -/
lemma asks_of_isUnderWay {accepted : List Nat} (ht : IsUnderWay request accepted (finals t))
    (hc : finals t = [] ∧ client.credential.Sends request c ∨
      ∃ operation : Operation.Follow, client.credential.Sends operation.poll c) :
    Heeds request t c ∧ IsPending request accepted (finals t) := by
  refine ⟨?_, .inl ht⟩
  rcases hc with ⟨hnone, hsends⟩ | ⟨operation, hsends⟩
  · exact fun hchange => ⟨hnone, eq_of_isChange hsends hchange⟩
  · exact heeds_of_get rfl hsends

/-- A deletion is made by its request alone. -/
lemma makes_deleteResource (hurl : Client.resourceUrl client.base path version = .ok url) :
    Makes (order url) deletionAccepted (fun _ _ extra r => extra = [] ∧ r = .ok ())
      ((client.deleteResource path version).runFrom token) := by
  rw [runFrom_deleteResource_eq, hurl]
  refine ensures_change (fun _ _ => asks_of_isUnderWay) (fun _ => .inl) ?_ ?_
  · intro t failure token h
    exact .inl ⟨failure, rfl, h⟩
  · intro t answer operation token _ h
    exact .inr ⟨_, [], answer, operation, (List.append_nil _).symm, h, rfl, rfl⟩

/-- What follows the creation of a resource: if an operation was followed, the resource is read. -/
def ReadsBack (url : Url) (answer : Http.Response) :
    Option Operation.Follow → List Turn → Except Failure Json → Prop
  | none, extra, r => extra = [] ∧ r = bodyOf answer
  | some _, extra, r =>
    (∃ reply, extra = [(inquiry url, reply)] ∧ r = (judge (answerOf reply)).bind bodyOf) ∨
      extra = [] ∧ ∃ failure, r = .error failure

lemma makes_putResource (hurl : Client.resourceUrl client.base path version = .ok url) :
    Makes (creation url body) creationAccepted (ReadsBack url)
      ((client.putResource path version body).runFrom token) := by
  rw [runFrom_putResource, hurl]
  refine ensures_change (fun _ _ => asks_of_isUnderWay) (fun _ => .inl) ?_ ?_
  · intro t failure token h
    exact .inl ⟨failure, rfl, h⟩
  · intro t answer operation token _ h
    cases operation with
    | none =>
      simp only [Client.created]
      rw [runFrom_ofExcept]
      exact .inr ⟨_, [], answer, none, (List.append_nil _).symm, h, rfl, rfl⟩
    | some operation =>
      simp only [Client.created]
      rw [runFrom_getResource, hurl]
      refine ensures_resume (fares_of_send ?_ rfl) ?_ ?_ ?_
      · rintro u c hu hc
        exact ⟨heeds_of_get rfl hc, .inr ⟨answer, operation, hu ▸ h⟩⟩
      · intro u hu
        exact .inr ⟨answer, operation, hu ▸ h⟩
      · intro u failure token' hfares
        cases hfares with
        | @final reply _ _ _ hfinals hr =>
          refine .inr ⟨_, _, answer, some operation, hfinals, h, .inl ⟨reply, rfl, ?_⟩⟩
          rw [hr]
          rfl
        | unanswered hfinals =>
          exact .inr ⟨_, [], answer, some operation, by rw [hfinals, List.append_nil], h,
            .inr ⟨rfl, failure, rfl⟩⟩
      · intro u response token' hfares
        cases hfares with
        | @final reply _ _ _ hfinals hr =>
          rw [runFrom_ofExcept]
          refine .inr ⟨_, _, answer, some operation, hfinals, h, .inl ⟨reply, rfl, ?_⟩⟩
          rw [hr]
          rfl

end Changes

/-! ### What a run tells of a change -/

section Standing

variable {α : Type} {request : Http.Request} {accepted : List Nat}
  {After : Http.Response → Option Operation.Follow → List Turn → Except Failure α → Prop}
  {p q : Program World (Except Failure α × Option String)} {t : Trace World}
  {answer : Http.Response} {operation : Operation.Follow} {turns rest : List Turn}

/-- What the turns after the start of an operation tell: it still goes on, or the first poll that
did not has settled the matter. -/
inductive Told (operation : Operation.Follow) (After : List Turn → Except Failure α → Prop)
    (q : Program World (Except Failure α × Option String)) : List Turn → Prop where
  | running {polls : List Http.Response} (hpolls : ∀ poll ∈ polls, operation.GoesOn poll) :
      Told operation After q (operation.turns polls)
  | settled {polls : List Http.Response} {reply : Http.Reply} {extra : List Turn}
      (hpolls : ∀ poll ∈ polls, operation.GoesOn poll)
      (hreply : operation.read reply ≠ .ok .running)
      (hfailed : ∀ failure, operation.read reply = .error failure →
        extra = [] ∧ ∃ token, q = .done (.error failure, token))
      (hended : operation.read reply = .ok .ended → ∀ x, q = .done x → After extra x.1) :
      Told operation After q (operation.turns polls ++ (operation.poll, reply) :: extra)

lemma told_of_completed (hstarts : Starts accepted answer (some operation)) {extra : List Turn}
    {answer' : Http.Response} {operation' : Option Operation.Follow}
    (h : Completed request accepted turns answer' operation')
    (hturns : turns ++ extra = (request, some answer) :: rest)
    (hq : ∀ x, q = .done x → After answer' operation' extra x.1) :
    Told operation (After answer (some operation)) q rest := by
  cases h with
  | atOnce hnone =>
    cases hturns
    cases hnone.unique hstarts
  | @followed _ last _ polls h hpolls hlast hended =>
    rw [List.cons_append, Operation.Follow.turns_concat, List.append_assoc] at hturns
    cases hturns
    cases h.unique hstarts
    have hread := Operation.Follow.read_eq_ended.2 ⟨last, rfl, hlast, hended⟩
    refine .settled hpolls ?_ ?_ fun _ => hq
    · rw [hread]
      nofun
    · rw [hread]
      nofun

lemma told_of_isPending (hstarts : Starts accepted answer (some operation))
    (h : IsPending request accepted turns) (hturns : turns = (request, some answer) :: rest)
    (hq : ∀ x, q ≠ .done x) : Told operation (After answer (some operation)) q rest := by
  rcases h with h | ⟨answer', operation', h⟩
  · cases h with
    | asked => cases hturns
    | polled h hpolls =>
      cases hturns
      cases h.unique hstarts
      exact .running hpolls
  · exact told_of_completed hstarts h (by rwa [List.append_nil]) fun x hx => absurd hx (hq x)

/-- What the turns tell, wherever a run stands. -/
lemma Makes.told (h : Makes request accepted After p) (hq : p.After t q)
    (hstarts : Starts accepted answer (some operation))
    (ht : finals t = (request, some answer) :: rest) :
    Told operation (After answer (some operation)) q rest := by
  have hstands := Ensures.ended h hq
  cases q with
  | ask c next => exact told_of_isPending hstarts hstands.1.2 ht nofun
  | cut => exact told_of_isPending hstarts hstands ht nofun
  | done x =>
    obtain ⟨r, token⟩ := x
    -- A change that was given up had been started, so its operation was not followed to a good end.
    rcases hstands with ⟨failure, rfl, hgiven⟩ | ⟨turns, extra, answer', operation', hturns, h, hx⟩
    · rw [ht] at hgiven
      cases hgiven with
      | refused hjudge =>
        rw [hstarts.judge_eq] at hjudge
        cases hjudge
      | misled hoperation =>
        rw [(starts_iff.1 hstarts).2] at hoperation
        cases hoperation
      | unfollowed h hcourse =>
        cases h.unique hstarts
        cases hcourse with
        | settled hpolls hread =>
          refine .settled hpolls ?_ ?_ ?_
          · rw [hread]
            nofun
          · rw [hread]
            rintro _ ⟨⟩
            exact ⟨rfl, token, rfl⟩
          · rw [hread]
            nofun
        | givenUp hpolls => exact .running hpolls
    · refine told_of_completed hstarts h (hturns.symm.trans ht) ?_
      rintro _ ⟨⟩
      exact hx

/-- What follows a change that was made. -/
lemma Makes.after {r : Except Failure α} {token : Option String}
    {operation : Option Operation.Follow} {extra : List Turn} (h : Makes request accepted After p)
    (hp : p.Yields t (r, token))
    (hcompleted : Completed request accepted turns answer operation)
    (ht : finals t = turns ++ extra) (hextra : operation = none → extra = []) :
    After answer operation extra r := by
  cases hcompleted with
  | atOnce hstarts =>
    cases hextra rfl
    rcases Ensures.ended h hp with ⟨failure, -, hgiven⟩ | ⟨turns, extra, answer', _, hturns, h, hx⟩
    · rw [ht] at hgiven
      exact absurd hgiven (not_givenUp_of_starts_none hstarts)
    · rw [ht] at hturns
      cases h with
      | atOnce =>
        cases hturns
        exact hx
      | followed h =>
        obtain ⟨⟨⟩, -⟩ := List.cons.inj hturns
        cases h.unique hstarts
  | @followed _ last operation polls hstarts hpolls hlast hended =>
    have hread := Operation.Follow.read_eq_ended.2 ⟨last, rfl, hlast, hended⟩
    have hend : operation.read (some last) ≠ .ok .running := by
      rw [hread]
      nofun
    rw [List.cons_append, Operation.Follow.turns_concat, List.append_assoc] at ht
    have htold := h.told hp hstarts ht
    generalize hrest : operation.turns polls ++ ([(operation.poll, some last)] ++ extra) = rest
      at htold
    cases htold with
    | @running polls' hpolls' =>
      have hmem : (operation.poll, some last) ∈ operation.turns polls' := hrest ▸ by simp
      exact absurd (Operation.Follow.read_of_mem_turns hpolls' hmem) hend
    | settled hpolls' hreply _ hafter =>
      obtain ⟨rfl, rfl⟩ := Operation.Follow.eq_of_turns hpolls hend hpolls' hreply hrest
      exact hafter hread _ rfl

/-- A client's program sees a change through. -/
structure SeesThrough {α : Type} (client : Client) (request : Http.Request) (accepted : List Nat)
    (p : Program World (Except Failure α × Option String)) : Prop where
  /-- Nothing is changed but by the request, and by that only until it is answered finally. -/
  once : ∀ before sent reply after q, p.After (before ++ ⟨.http sent, reply⟩ :: after) q →
    sent.method = .put ∨ sent.method = .delete →
      finals before = [] ∧ ∃ bearer, sent = bearing request bearer
  /-- A bad end is the end, and is reported with what was said of it. -/
  failed : ∀ t q answer operation polls last verdict message, p.After t q →
    Starts accepted answer (some operation) → (∀ poll ∈ polls, operation.GoesOn poll) →
    operation.HasFailed last verdict message →
    finals t = (request, some answer) :: operation.turns (polls ++ [last]) →
      ∃ token, q = .done (.error (.operation verdict message), token)
  /-- An operation that goes on is not the end, unless polling it has spent a backoff. -/
  goesOn : ∀ t x answer operation polls, p.Yields t x →
    Starts accepted answer (some operation) → (∀ poll ∈ polls, operation.GoesOn poll) →
    finals t = (request, some answer) :: operation.turns polls →
      ∃ before after bearer, t = before ++ after ∧ finals before = [(request, some answer)] ∧
        client.WearsOut operation bearer after
  /-- After a poll of an operation that goes on, the operation is polled. -/
  polled : ∀ t q answer operation polls turn rest, p.After t q →
    Starts accepted answer (some operation) → (∀ poll ∈ polls, operation.GoesOn poll) →
    finals t = (request, some answer) :: operation.turns polls ++ turn :: rest →
      turn.1 = operation.poll

lemma Makes.seesThrough {client : Client} {token : Option String}
    (h : Makes request accepted After p)
    (hp : ∀ t x, p.Yields t x → client.Undertakes request accepted token t) :
    SeesThrough client request accepted p where
  once before sent reply after q hq hmethod := by
    obtain ⟨hnone, bearer, hcall⟩ := (Ensures.asked h hq).1 ⟨sent, rfl, hmethod⟩
    cases hcall
    exact ⟨hnone, bearer, rfl⟩
  failed t q answer operation polls last verdict message hq hstarts hpolls hfailed ht := by
    have hread := hfailed.read_eq
    have hend : operation.read (some last) ≠ .ok .running := by
      rw [hread]
      nofun
    rw [Operation.Follow.turns_concat] at ht
    have htold := h.told hq hstarts ht
    generalize hrest : operation.turns polls ++ [(operation.poll, some last)] = rest at htold
    cases htold with
    | @running polls' hpolls' =>
      have hmem : (operation.poll, some last) ∈ operation.turns polls' := hrest ▸ by simp
      exact absurd (Operation.Follow.read_of_mem_turns hpolls' hmem) hend
    | settled hpolls' hreply hover _ =>
      obtain ⟨rfl, rfl⟩ := Operation.Follow.eq_of_turns hpolls hend hpolls' hreply hrest
      exact (hover _ hread).2
  goesOn t x answer operation polls hx hstarts hpolls ht :=
    (hp t x hx).wearsOut hstarts ht fun _ => Operation.Follow.read_of_mem_turns hpolls
  polled t q answer operation polls turn rest hq hstarts hpolls ht := by
    have htold := h.told hq hstarts ht
    generalize hrest : (operation.turns polls).append (turn :: rest) = all at htold
    cases htold with
    | @running polls' _ =>
      have hmem : turn ∈ operation.turns polls' := hrest ▸ by simp
      obtain ⟨_, _, rfl⟩ := List.mem_map.1 hmem
      rfl
    | @settled polls' reply extra _ hreply _ _ =>
      obtain ⟨more, -, hmore⟩ := Operation.Follow.exists_append_of_turns hpolls hreply hrest
      cases more with
      | nil =>
        cases hmore
        rfl
      | cons poll more =>
        obtain ⟨rfl, -⟩ := List.cons.inj hmore
        rfl

end Standing

/-! ### Main theorem -/

/-- Where a resource has no address, nothing is asked. -/
lemma runFrom_of_unaddressed {client : Client} {path version : String} {failure : Failure}
    (h : Client.resourceUrl client.base path version = .error failure) (body : Json)
    (token : Option String) :
    (client.putResource path version body).runFrom token = .done (.error failure, token) ∧
      (client.deleteResource path version).runFrom token = .done (.error failure, token) := by
  rw [runFrom_putResource, runFrom_deleteResource, h]
  exact ⟨rfl, rfl⟩

section Outcomes

variable {url : Url} {body : Json} {t : Trace World} {token : Option String}

/-- A creation that was made returns what its answer says, or what the resource is. -/
lemma Makes.creation_eq_ok {p : Program World (Except Failure Json × Option String)}
    {r : Except Failure Json} {value : Json}
    (h : Makes (creation url body) creationAccepted (ReadsBack url) p)
    (hr : p.Yields t (r, token)) :
    r = .ok value ↔
      (∃ answer, Completed (creation url body) creationAccepted (finals t) answer none ∧
        Reads answer (.ok value)) ∨
      ∃ turns answer operation final,
        Completed (creation url body) creationAccepted turns answer (some operation) ∧
        finals t = turns ++ [(inquiry url, some final)] ∧ final.isSuccess = true ∧
        Reads final (.ok value) := by
  simp only [reads_iff]
  constructor
  · rintro rfl
    rcases Ensures.ended h hr with
      ⟨failure, ⟨⟩, _⟩ | ⟨turns, extra, answer, operation, ht, hcompleted, hafter⟩
    cases operation with
    | none =>
      obtain ⟨rfl, hbody⟩ := hafter
      rw [List.append_nil] at ht
      exact .inl ⟨answer, ht ▸ hcompleted, hbody⟩
    | some operation =>
      rcases hafter with ⟨reply, rfl, hread⟩ | ⟨_, failure, ⟨⟩⟩
      cases hjudge : judge (answerOf reply) with
      | error failure =>
        rw [hjudge] at hread
        cases hread
      | ok final =>
        obtain ⟨rfl, hsuccess⟩ := judge_eq_ok.1 hjudge
        rw [hjudge] at hread
        exact .inr ⟨turns, answer, operation, final, hcompleted, ht, hsuccess, hread⟩
  · rintro (⟨answer, hcompleted, hbody⟩ |
      ⟨turns, answer, operation, final, hcompleted, ht, hsuccess, hbody⟩)
    · obtain ⟨-, rfl⟩ := h.after hr hcompleted (List.append_nil _).symm fun _ => rfl
      exact hbody.symm
    · rcases h.after hr hcompleted ht nofun with ⟨reply, hreply, rfl⟩ | ⟨⟨⟩, _⟩
      cases hreply
      rw [judge_eq_ok.2 ⟨rfl, hsuccess⟩]
      exact hbody.symm

/-- A deletion is done when it was made, and nothing follows. -/
lemma Makes.deletion_eq_ok {p : Program World (Except Failure Unit × Option String)}
    {r : Except Failure Unit}
    (h : Makes (order url) deletionAccepted (fun _ _ extra r => extra = [] ∧ r = .ok ()) p)
    (hr : p.Yields t (r, token)) :
    r = .ok () ↔ ∃ answer operation,
      Completed (order url) deletionAccepted (finals t) answer operation := by
  constructor
  · rintro rfl
    rcases Ensures.ended h hr with
      ⟨failure, ⟨⟩, _⟩ | ⟨turns, extra, answer, operation, ht, hcompleted, rfl, -⟩
    rw [List.append_nil] at ht
    exact ⟨answer, operation, ht ▸ hcompleted⟩
  · rintro ⟨answer, operation, hcompleted⟩
    exact (h.after hr hcompleted (List.append_nil _).symm fun _ => rfl).2

end Outcomes

/-- A creation returns what the answer to it reads when that started no operation, and else what the
resource reads after the operation has come to a good end. A deletion is done when its answer
started no operation or the operation has come to a good end. Both are seen through, and what comes
of them obeys the law of changes. -/
theorem changes_seen_through (client : Client) (path version : String) (body : Json)
    (token : Option String) :
    (∀ failure, Client.resourceUrl client.base path version = .error failure →
      (client.putResource path version body).runFrom token = .done (.error failure, token) ∧
      (client.deleteResource path version).runFrom token = .done (.error failure, token)) ∧
    ∀ url, Client.resourceUrl client.base path version = .ok url →
      (SeesThrough client (creation url body) creationAccepted
          ((client.putResource path version body).runFrom token) ∧
        (∀ t r token', ((client.putResource path version body).runFrom token).Yields t (r, token') ↔
          client.Creates url body token t r token') ∧
        ∀ t r token' value,
          ((client.putResource path version body).runFrom token).Yields t (r, token') →
          (r = .ok value ↔
            (∃ answer, Completed (creation url body) creationAccepted (finals t) answer none ∧
              Reads answer (.ok value)) ∨
            ∃ turns answer operation final,
              Completed (creation url body) creationAccepted turns answer (some operation) ∧
              finals t = turns ++ [(inquiry url, some final)] ∧ final.isSuccess = true ∧
              Reads final (.ok value))) ∧
      SeesThrough client (order url) deletionAccepted
          ((client.deleteResource path version).runFrom token) ∧
        (∀ t r token', ((client.deleteResource path version).runFrom token).Yields t (r, token') ↔
          client.Deletes url token t r token') ∧
        ∀ t r token', ((client.deleteResource path version).runFrom token).Yields t (r, token') →
          (r = .ok () ↔ ∃ answer operation,
            Completed (order url) deletionAccepted (finals t) answer operation) := by
  refine ⟨fun _ h => runFrom_of_unaddressed h body token, ?_⟩
  intro url hurl
  have hput : Makes (creation url body) creationAccepted (ReadsBack url)
      ((client.putResource path version body).runFrom token) := makes_putResource hurl
  have hdelete : Makes (order url) deletionAccepted (fun _ _ extra r => extra = [] ∧ r = .ok ())
      ((client.deleteResource path version).runFrom token) := makes_deleteResource hurl
  have hcreates : ∀ t x, ((client.putResource path version body).runFrom token).Yields t x →
      client.Undertakes (creation url body) creationAccepted token t :=
    fun _ _ hx => ((yields_putResource_iff hurl).1 hx).undertakes
  have hdeletes : ∀ t x, ((client.deleteResource path version).runFrom token).Yields t x →
      client.Undertakes (order url) deletionAccepted token t :=
    fun _ _ hx => ((yields_deleteResource_iff hurl).1 hx).undertakes
  refine ⟨⟨hput.seesThrough hcreates, ?_, ?_⟩, hdelete.seesThrough hdeletes, ?_, ?_⟩
  · intro t r token'
    exact yields_putResource_iff hurl
  · intro t r token' value hr
    exact hput.creation_eq_ok hr
  · intro t r token'
    exact yields_deleteResource_iff hurl
  · intro t r token' hr
    exact hdelete.deletion_eq_ok hr

/-! ### A creation that starts an operation -/

section Creation

/-- Where the status of the operation is. -/
def operationUrl : Url := { managerUrl with path := .segments ["operation"] }

/-- The operation that is started. -/
def startedOperation : Operation.Follow := .status operationUrl

/-- The answer that starts the operation. -/
def startingAnswer : Http.Response :=
  ⟨202, [("azure-asyncoperation", "https://management.azure.com/operation")], ""⟩

/-- The answer that tells of its good end. -/
def endingAnswer : Http.Response := ⟨200, [], "\x7b\"status\":\"Succeeded\"\x7d"⟩

lemma parseUrl_operation :
    parseUrl "https://management.azure.com/operation" = .ok operationUrl := by
  have hparse : Url.parse "https://management.azure.com/operation" = .ok operationUrl := by
    decide +kernel
  rw [parseUrl, hparse]
  rfl

lemma progress_endingAnswer : startedOperation.progress endingAnswer = .ok .ended := by
  rw [Operation.Follow.progress_eq_ended]
  exact ⟨"", tellsStatus_iff.2 ⟨⟨"Succeeded", none⟩, by decide +kernel, rfl, rfl⟩⟩

/-- A success is passed on. -/
lemma yields_send_granted {request : Http.Request} {answer : Http.Response}
    (h : answer.isSuccess = true) :
    ((creator.send request).runFrom (some "token")).Yields (answered "token" request (some answer))
      (.ok answer, some "token") := by
  have hjudge : judge (answerOf (some answer)) = .ok answer := judge_eq_ok.2 ⟨rfl, h⟩
  rw [← hjudge]
  exact yields_send_answered rfl (by unfold IsSendable; decide +kernel)
    (not_isRetryable_of_isSuccess h)

lemma yields_follow_started :
    ((creator.follow startedOperation).runFrom (some "token")).Yields
      (⟨.clock, (0 : Nat)⟩ :: answered "token" startedOperation.poll (some endingAnswer))
      (.ok (), some "token") := by
  have hpoll : ((creator.poll startedOperation).runFrom (some "token")).Yields
      (answered "token" startedOperation.poll (some endingAnswer)) (.ok .ended, some "token") := by
    rw [runFrom_poll]
    refine yields_bind_iff.2 ⟨_, [], _, rfl, yields_send_granted rfl, ?_⟩
    rw [resume, progress_endingAnswer, runFrom_ofExcept]
    exact .here _
  rw [runFrom_follow]
  refine .answered ?_
  rw [show creator.patience = 0 + 1 from rfl, runFrom_pollFrom_succ]
  exact yields_bind_iff.2 ⟨_, [], _, rfl, hpoll, .here _⟩

lemma starts_startingAnswer :
    Starts creationAccepted startingAnswer (some startedOperation) :=
  .status rfl (by decide) (by decide +kernel) parseUrl_operation

lemma yields_getResource_created :
    ((creator.getResource "/resource" "1").runFrom (some "token")).Yields
      (answered "token" (inquiry createdUrl) (some showingAnswer))
      (.ok (.bool true), some "token") := by
  have hparse : Json.parse? "true" = some (.bool true) := rfl
  have hbody : bodyOf showingAnswer = .ok (.bool true) := by
    rw [bodyOf, if_neg (by decide), showingAnswer, hparse]
  rw [runFrom_getResource, resourceUrl_created]
  refine yields_bind_iff.2 ⟨_, [], _, rfl, yields_send_granted rfl, ?_⟩
  rw [resume, hbody, runFrom_ofExcept]
  exact .here _

/-- A creation is followed to its end. -/
def creatingRun : Trace World :=
  answered "token" (creation createdUrl .null) (some startingAnswer) ++
    ((⟨.clock, (0 : Nat)⟩ :: answered "token" startedOperation.poll (some endingAnswer)) ++
      answered "token" (inquiry createdUrl) (some showingAnswer))

lemma yields_creatingRun :
    ((creator.putResource "/resource" "1" .null).runFrom (some "token")).Yields creatingRun
      (.ok (.bool true), some "token") := by
  rw [runFrom_putResource, resourceUrl_created]
  refine yields_bind_iff.2 ⟨_, _, _, rfl, yields_send_granted rfl, ?_⟩
  rw [resume, runFrom_bind, runFrom_conclude, (starts_iff.1 starts_startingAnswer).2]
  change (((creator.follow startedOperation).runFrom (some "token")).bind
    (resume fun _ => return (startingAnswer, some startedOperation)) |>.bind
      (resume (creator.created "/resource" "1"))).Yields _ _
  refine yields_bind_iff.2 ⟨_, _, (.ok (startingAnswer, some startedOperation), some "token"), rfl,
    ?_, yields_getResource_created⟩
  exact yields_bind_iff.2 ⟨_, [], _, (List.append_nil _).symm, yields_follow_started, .here _⟩

/-- What is seen of it. -/
theorem creatingRun_seen_through :
    ((creator.putResource "/resource" "1" .null).runFrom (some "token")).Yields creatingRun
      (.ok (.bool true), some "token") ∧
    creator.Creates createdUrl .null (some "token") creatingRun (.ok (.bool true)) (some "token") ∧
    (∃ turns answer operation final,
      Completed (creation createdUrl .null) creationAccepted turns answer (some operation) ∧
      finals creatingRun = turns ++ [(inquiry createdUrl, some final)] ∧
      Reads final (.ok (.bool true))) ∧
    SeesThrough creator (creation createdUrl .null) creationAccepted
      ((creator.putResource "/resource" "1" .null).runFrom (some "token")) := by
  obtain ⟨⟨hthrough, hlaw, hreturns⟩, -⟩ :=
    (changes_seen_through creator "/resource" "1" .null (some "token")).2 createdUrl
      resourceUrl_created
  refine ⟨yields_creatingRun, (hlaw _ _ _).1 yields_creatingRun, ?_, hthrough⟩
  rcases (hreturns _ _ _ _ yields_creatingRun).1 rfl with
    ⟨answer, hcompleted, _⟩ | ⟨turns, answer, operation, final, hcompleted, ht, _, hbody⟩
  · have hlength : (finals creatingRun).length = 3 := rfl
    generalize finals creatingRun = turns at hcompleted hlength
    cases hcompleted
    cases hlength
  · exact ⟨turns, answer, operation, final, hcompleted, ht, hbody⟩

end Creation

end BucketOperator.Azure
