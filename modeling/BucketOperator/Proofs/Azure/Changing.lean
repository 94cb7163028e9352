import BucketOperator.Proofs.Azure.Deletion
import BucketOperator.Proofs.Azure.Finals

/-!
# Changing a resource

A request that changes a resource may start an operation, which is then followed. What is seen of a
change is the final answer to its request and the final answers to the polls of the operation.
-/

namespace BucketOperator.Azure

open Program (recorded Returns)

/-! ### Requests that change a resource -/

/-- The request by which a resource is created or replaced. -/
def creation (url : Url) (body : Json) : Http.Request := ⟨.put, url, [], some (.json body)⟩

/-- The request by which a resource is read. -/
def inquiry (url : Url) : Http.Request := ⟨.get, url, [], none⟩

/-- The statuses with which the creation of a resource starts an operation. -/
def creationAccepted : List Nat := [201, 202]

/-- The status with which the deletion of a resource starts an operation. -/
def deletionAccepted : List Nat := [202]

/-- What a success starts, if its status is one that starts something: the operation at the place
that it names for the status of one, or else, when it is "accepted", for the result of one. -/
inductive Starts (accepted : List Nat) (answer : Http.Response) :
    Option Operation.Follow → Prop where
  | finished (hsuccess : answer.isSuccess = true) (hstatus : answer.status ∉ accepted) :
      Starts accepted answer none
  | nowhere (hsuccess : answer.isSuccess = true) (hstatus : answer.status ∈ accepted)
      (hnone : answer.header? "azure-asyncoperation" = none)
      (hlocation : answer.status = 202 → answer.header? "location" = none) :
      Starts accepted answer none
  | status {text : String} {url : Url} (hsuccess : answer.isSuccess = true)
      (hstatus : answer.status ∈ accepted)
      (htext : answer.header? "azure-asyncoperation" = some text) (hurl : parseUrl text = .ok url) :
      Starts accepted answer (some (.status url))
  | location {text : String} {url : Url} (hsuccess : answer.isSuccess = true)
      (hstatus : answer.status ∈ accepted) (haccepted : answer.status = 202)
      (hnone : answer.header? "azure-asyncoperation" = none)
      (htext : answer.header? "location" = some text) (hurl : parseUrl text = .ok url) :
      Starts accepted answer (some (.location url))

/-- The operation that an answer starts, which only some statuses do. -/
def operationOf (accepted : List Nat) (answer : Http.Response) :
    Except Failure (Option Operation.Follow) :=
  if answer.status ∈ accepted then startedOperation? answer else .ok none

section Naming

variable {answer : Http.Response} {text : String}

lemma startedOperation?_of_status (htext : answer.header? "azure-asyncoperation" = some text) :
    startedOperation? answer = (parseUrl text).map fun url => some (.status url) := by
  simp only [startedOperation?, htext]
  cases parseUrl text <;> rfl

lemma startedOperation?_of_location (haccepted : answer.status = 202)
    (hnone : answer.header? "azure-asyncoperation" = none)
    (htext : answer.header? "location" = some text) :
    startedOperation? answer = (parseUrl text).map fun url => some (.location url) := by
  rw [startedOperation?, hnone, htext]
  simp only [if_pos haccepted]
  cases parseUrl text <;> rfl

lemma startedOperation?_of_nowhere (hnone : answer.header? "azure-asyncoperation" = none)
    (hlocation : answer.status = 202 → answer.header? "location" = none) :
    startedOperation? answer = .ok none := by
  rw [startedOperation?, hnone]
  cases htext : answer.header? "location" with
  | none => rfl
  | some text =>
    have hne : answer.status ≠ 202 := by
      intro h
      rw [hlocation h] at htext
      cases htext
    simp only [if_neg hne]
    rfl

/-- An answer names the place of a status, or the place of a result, or none. -/
lemma names_place (answer : Http.Response) :
    (∃ text, answer.header? "azure-asyncoperation" = some text) ∨
    answer.header? "azure-asyncoperation" = none ∧
      ((∃ text, answer.status = 202 ∧ answer.header? "location" = some text) ∨
        (answer.status = 202 → answer.header? "location" = none)) := by
  cases answer.header? "azure-asyncoperation" with
  | some text => exact .inl ⟨text, rfl⟩
  | none =>
    refine .inr ⟨rfl, ?_⟩
    by_cases haccepted : answer.status = 202
    · cases answer.header? "location" with
      | some text => exact .inl ⟨text, haccepted, rfl⟩
      | none => exact .inr fun _ => rfl
    · exact .inr fun h => absurd h haccepted

end Naming

lemma startedOperation?_eq {accepted : List Nat} {answer : Http.Response}
    {operation : Option Operation.Follow} (hsuccess : answer.isSuccess = true)
    (hstatus : answer.status ∈ accepted) :
    Starts accepted answer operation ↔ startedOperation? answer = .ok operation := by
  constructor
  · intro h
    cases h with
    | finished _ hno => exact absurd hstatus hno
    | nowhere _ _ hnone hlocation => exact startedOperation?_of_nowhere hnone hlocation
    | status _ _ htext hurl =>
      rw [startedOperation?_of_status htext, hurl]
      rfl
    | location _ _ haccepted hnone htext hurl =>
      rw [startedOperation?_of_location haccepted hnone htext, hurl]
      rfl
  · intro h
    rcases names_place answer with ⟨text, htext⟩ | ⟨hnone, ⟨text, haccepted, htext⟩ | hlocation⟩
    · rw [startedOperation?_of_status htext] at h
      cases hurl : parseUrl text <;> rw [hurl] at h <;> cases h
      exact .status hsuccess hstatus htext hurl
    · rw [startedOperation?_of_location haccepted hnone htext] at h
      cases hurl : parseUrl text <;> rw [hurl] at h <;> cases h
      exact .location hsuccess hstatus haccepted hnone htext hurl
    · rw [startedOperation?_of_nowhere hnone hlocation] at h
      cases h
      exact .nowhere hsuccess hstatus hnone hlocation

lemma starts_iff {accepted : List Nat} {answer : Http.Response}
    {operation : Option Operation.Follow} : Starts accepted answer operation ↔
      answer.isSuccess = true ∧ operationOf accepted answer = .ok operation := by
  have hpassed : Starts accepted answer operation → answer.isSuccess = true := by
    intro h
    cases h <;> assumption
  rw [operationOf]
  split
  next hstatus =>
    constructor
    · intro h
      exact ⟨hpassed h, (startedOperation?_eq (hpassed h) hstatus).1 h⟩
    · rintro ⟨hsuccess, h⟩
      exact (startedOperation?_eq hsuccess hstatus).2 h
  next hstatus =>
    constructor
    · intro h
      refine ⟨hpassed h, ?_⟩
      cases h with
      | finished => rfl
      | nowhere _ hyes => exact absurd hyes hstatus
      | status _ hyes => exact absurd hyes hstatus
      | location _ hyes => exact absurd hyes hstatus
    · rintro ⟨hsuccess, ⟨⟩⟩
      exact .finished hsuccess hstatus

/-! ### Calls that ask for a change -/

/-- Whether a call asks for a change. -/
def IsChange (c : World.Call) : Prop :=
  ∃ sent : Http.Request, c = .http sent ∧ (sent.method = .put ∨ sent.method = .delete)

section Calls

variable {credential : Credential} {request : Http.Request} {c : World.Call}

lemma not_isChange_of_asks {sent : Http.Request}
    (h : credential.Asks sent) : ¬ IsChange (.http sent) := by
  rintro ⟨_, hcall, hmethod⟩
  cases hcall
  cases credential with
  | fixed _ => exact h
  | managed endpoint clientId =>
    obtain ⟨base, rfl⟩ := exists_of_formed h
    exact hmethod.elim nofun nofun
  | clientSecret authority tenantId clientId secret =>
    obtain ⟨base, rfl⟩ := exists_of_formed h
    exact hmethod.elim nofun nofun
  | workload authority tenantId clientId tokenFile =>
    obtain ⟨assertion, h⟩ := h
    obtain ⟨base, rfl⟩ := exists_of_formed h
    exact hmethod.elim nofun nofun

lemma not_isChange_of_calls (h : credential.Calls c) : ¬ IsChange c := by
  cases h with
  | file path => rintro ⟨_, ⟨⟩, _⟩
  | request hasks => exact not_isChange_of_asks hasks

/-- A request is the only change that is asked for to send it. -/
lemma eq_of_isChange (h : credential.Sends request c)
    (hc : IsChange c) : ∃ bearer, c = .http (bearing request bearer) := by
  cases h with
  | bearing bearer => exact ⟨bearer, rfl⟩
  | token hcalls => exact absurd hc (not_isChange_of_calls hcalls)
  | clock => obtain ⟨_, ⟨⟩, _⟩ := hc
  | sleep duration => obtain ⟨_, ⟨⟩, _⟩ := hc

lemma not_isChange_of_sends (hmethod : request.method = .get) (h : credential.Sends request c) :
    ¬ IsChange c := by
  intro hc
  obtain ⟨bearer, rfl⟩ := eq_of_isChange h hc
  obtain ⟨_, hcall, hchange⟩ := hc
  cases hcall
  have hsame : (bearing request bearer).method = .get := hmethod
  rw [hsame] at hchange
  exact hchange.elim nofun nofun

end Calls

/-! ### Changes as programs -/

/-- Follow the operation that an answer starts, if any. -/
def Client.conclude (client : Client) (accepted : List Nat) (response : Http.Response) :
    Session (Http.Response × Option Operation.Follow) := do
  match ← (operationOf accepted response : Except Failure (Option Operation.Follow)) with
  | some operation =>
    client.follow operation
    return (response, some operation)
  | none => return (response, none)

/-- What a creation returns: what its answer says, or the resource as it is after the operation. -/
def Client.created (client : Client) (path version : String) :
    Http.Response × Option Operation.Follow → Session Json
  | (_, some _) => client.getResource path version
  | (response, none) => (bodyOf response : Except Failure Json)

section Programs

variable {client : Client} {path version : String} {body : Json} {accepted : List Nat}
  {response : Http.Response} {token : Option String}

lemma runFrom_conclude : (client.conclude accepted response).runFrom token =
    match operationOf accepted response with
    | .error failure => .done (.error failure, token)
    | .ok none => .done (.ok (response, none), token)
    | .ok (some operation) => ((client.follow operation).runFrom token).bind
        (resume fun _ => return (response, some operation)) := by
  rw [Client.conclude, runFrom_bind, runFrom_ofExcept]
  rcases operationOf accepted response with failure | _ | operation
  · rfl
  · rfl
  · rw [Program.done_bind, resume, runFrom_bind]

/-- How a session goes on after a part that cannot fail without ending it. -/
lemma resume_bind {α β γ : Type} {x : Program World (Except Failure α × Option String)}
    {f : α → Session β} {g : β → Session γ} :
    (x.bind (resume f)).bind (resume g) =
      x.bind (resume fun a => ExceptT.mk (StateT.mk fun token =>
        ((f a).runFrom token).bind (resume g))) := by
  rw [Program.bind_assoc]
  congr 1
  funext ⟨r, token⟩
  cases r <;> rfl

lemma runFrom_putResource : (client.putResource path version body).runFrom token =
    match Client.resourceUrl client.base path version with
    | .error failure => .done (.error failure, token)
    | .ok url => ((client.send (creation url body)).runFrom token).bind
        (resume fun response => client.conclude creationAccepted response >>=
          client.created path version) := by
  rw [Client.putResource, Client.sendFor, runFrom_bind, runFrom_bind, runFrom_ofExcept]
  cases Client.resourceUrl client.base path version with
  | error failure => rfl
  | ok url =>
    simp only [Program.done_bind, resume]
    change ((client.send (creation url body)).runFrom token).bind _ = _
    congr 1
    funext x
    obtain ⟨r, token⟩ := x
    cases r with
    | error failure => rfl
    | ok response =>
      simp only [resume]
      rw [runFrom_bind, runFrom_conclude]
      have hmem : response.status ∈ creationAccepted ↔
          response.status = 201 ∨ response.status = 202 := by
        simp [creationAccepted]
      by_cases hstatus : response.status = 201 ∨ response.status = 202
      · rw [if_pos hstatus, runFrom_bind, runFrom_ofExcept, operationOf, if_pos (hmem.2 hstatus)]
        rcases startedOperation? response with failure | _ | operation
        · rfl
        · rfl
        · simp only [Program.done_bind, resume]
          rw [runFrom_bind, resume_bind]
          rfl
      · rw [if_neg hstatus, operationOf, if_neg (mt hmem.1 hstatus)]
        rfl

lemma runFrom_deleteResource_eq : (client.deleteResource path version).runFrom token =
    match Client.resourceUrl client.base path version with
    | .error failure => .done (.error failure, token)
    | .ok url => ((client.send (order url)).runFrom token).bind
        (resume fun response => client.conclude deletionAccepted response >>= fun _ =>
          return ()) := by
  rw [runFrom_deleteResource]
  cases Client.resourceUrl client.base path version with
  | error failure => rfl
  | ok url =>
    change ((client.send (order url)).runFrom token).bind _ = _
    congr 1
    funext x
    obtain ⟨r, token⟩ := x
    cases r with
    | error failure => rfl
    | ok response =>
      simp only [resume]
      rw [runFrom_bind, runFrom_conclude]
      have hmem : response.status ∈ deletionAccepted ↔ response.status = 202 := by
        simp [deletionAccepted]
      by_cases hstatus : response.status = 202
      · rw [runFrom_await_of_eq hstatus, operationOf, if_pos (hmem.2 hstatus)]
        rcases startedOperation? response with failure | _ | operation
        · rfl
        · rfl
        · simp only
          rw [resume_bind]
          refine (Program.bind_done _).symm.trans ?_
          congr 1
          funext x
          obtain ⟨r, token⟩ := x
          cases r <;> rfl
      · rw [runFrom_await_of_ne hstatus, operationOf, if_neg (mt hmem.1 hstatus)]
        rfl

end Programs

/-! ### The course of a change -/

/-- What is seen of a change that was made: the final answer to its request, and the polls of the
operation that the answer started. -/
inductive Completed (request : Http.Request) (accepted : List Nat) :
    List Turn → Http.Response → Option Operation.Follow → Prop where
  | atOnce {answer : Http.Response} (h : Starts accepted answer none) :
      Completed request accepted [(request, some answer)] answer none
  | followed {answer last : Http.Response} {operation : Operation.Follow}
      {polls : List Http.Response} (h : Starts accepted answer (some operation))
      (hpolls : ∀ poll ∈ polls, operation.GoesOn poll) (hlast : last.isSuccess = true)
      (hended : operation.HasEnded last) :
      Completed request accepted ((request, some answer) :: operation.turns (polls ++ [last]))
        answer (some operation)

/-- What is seen of a change that was given up. -/
inductive GivenUp (request : Http.Request) (accepted : List Nat) :
    List Turn → Failure → Prop where
  | unanswered {failure : Failure} : GivenUp request accepted [] failure
  | refused {reply : Http.Reply} {failure : Failure} (h : judge (answerOf reply) = .error failure) :
      GivenUp request accepted [(request, reply)] failure
  | misled {answer : Http.Response} {failure : Failure}
      (h : operationOf accepted answer = .error failure) :
      GivenUp request accepted [(request, some answer)] failure
  | unfollowed {answer : Http.Response} {operation : Operation.Follow} {turns : List Turn}
      {failure : Failure} (h : Starts accepted answer (some operation))
      (hcourse : Course operation turns (.error failure)) :
      GivenUp request accepted ((request, some answer) :: turns) failure

/-- What is seen of a change that is still being made. -/
inductive IsUnderWay (request : Http.Request) (accepted : List Nat) : List Turn → Prop where
  | asked : IsUnderWay request accepted []
  | polled {answer : Http.Response} {operation : Operation.Follow} {polls : List Http.Response}
      (h : Starts accepted answer (some operation))
      (hpolls : ∀ poll ∈ polls, operation.GoesOn poll) :
      IsUnderWay request accepted ((request, some answer) :: operation.turns polls)

section Courses

variable {client : Client} {request : Http.Request} {accepted : List Nat} {token : Option String}
  {asks : Trace World → World.Call → Prop} {C : Trace World → Prop} {t : Trace World} {α : Type}

/-- A change takes its course, and what follows depends on whether it was made. -/
theorem ensures_change {k : Http.Response × Option Operation.Follow → Session α}
    {R : Trace World → Except Failure α × Option String → Prop}
    (hasks : ∀ t c, IsUnderWay request accepted (finals t) →
      (finals t = [] ∧ client.credential.Sends request c ∨
        ∃ operation : Operation.Follow, client.credential.Sends operation.poll c) → asks t c)
    (hcut : ∀ t, IsUnderWay request accepted (finals t) → C t)
    (hgivenUp : ∀ t failure token,
      GivenUp request accepted (finals t) failure → R t (.error failure, token))
    (hcompleted : ∀ t answer operation token, IsReady token →
      Completed request accepted (finals t) answer operation →
        ((k (answer, operation)).runFrom token).Ensures (recorded World) asks (Returns R C) t) :
    (((client.send request).runFrom token).bind (resume fun response =>
      client.conclude accepted response >>= k)).Ensures (recorded World) asks (Returns R C) [] := by
  have hsend : ((client.send request).runFrom token).Ensures (recorded World) asks
      (Returns (Fares request []) fun t => finals t = []) [] :=
    fares_of_send (fun t c ht hc => hasks t c (ht ▸ .asked) (.inl ⟨ht, hc⟩)) rfl
  refine ensures_resume hsend (fun t ht => hcut t (ht ▸ .asked)) ?_ ?_
  · intro t failure token' h
    refine hgivenUp t failure token' ?_
    cases h with
    | final _ hfinals hr => exact hfinals ▸ .refused hr
    | unanswered hfinals => exact hfinals ▸ .unanswered
  · intro t answer token' h
    cases h with
    | @final reply _ _ hready hfinals hr =>
      obtain ⟨rfl, hsuccess⟩ := judge_eq_ok.1 hr
      rw [runFrom_bind, runFrom_conclude]
      rcases hoperation : operationOf accepted answer with failure | _ | operation
      · exact hgivenUp t failure token' (hfinals ▸ .misled hoperation)
      · exact hcompleted t answer none token' hready
          (hfinals ▸ .atOnce (starts_iff.2 ⟨hsuccess, hoperation⟩))
      · have hstarts := starts_iff.2 ⟨hsuccess, hoperation⟩
        have hpolled : ∀ t, IsPolled operation [(request, some answer)] (finals t) →
            IsUnderWay request accepted (finals t) := by
          rintro t ⟨polls, hpolls, hfinals⟩
          exact hfinals ▸ .polled hstarts hpolls
        simp only
        rw [resume_bind]
        refine ensures_resume (course_of_follow ?_ hready hfinals)
          (fun t ht => hcut t (hpolled t ht)) ?_ ?_
        · exact fun t c ht hc => hasks t c (hpolled t ht) (.inr ⟨operation, hc⟩)
        · rintro t failure token ⟨-, turns, hfinals, hcourse⟩
          exact hgivenUp t failure token (hfinals ▸ .unfollowed hstarts hcourse)
        · rintro t u token ⟨hready, turns, hfinals, hcourse⟩
          obtain ⟨polls, last, rfl, hpolls, hlast, hended⟩ := hcourse.ended
          exact hcompleted t answer (some operation) token hready
            (hfinals ▸ .followed hstarts hpolls hlast hended)

lemma Starts.unique {answer : Http.Response} {operation operation' : Option Operation.Follow}
    (h : Starts accepted answer operation) (h' : Starts accepted answer operation') :
    operation = operation' :=
  Except.ok.inj ((starts_iff.1 h).2.symm.trans (starts_iff.1 h').2)

lemma Starts.judge_eq {answer : Http.Response} {operation : Option Operation.Follow}
    (h : Starts accepted answer operation) : judge (answerOf (some answer)) = .ok answer :=
  judge_eq_ok.2 ⟨rfl, (starts_iff.1 h).1⟩

/-- Where nothing was started, giving up is out of the question. -/
lemma not_givenUp_of_starts_none {answer : Http.Response} {failure : Failure}
    (h : Starts accepted answer none) :
    ¬ GivenUp request accepted [(request, some answer)] failure := by
  intro hgiven
  cases hgiven with
  | refused hjudge =>
    rw [h.judge_eq] at hjudge
    cases hjudge
  | misled hoperation =>
    rw [(starts_iff.1 h).2] at hoperation
    cases hoperation
  | unfollowed hstarts => cases h.unique hstarts

end Courses

end BucketOperator.Azure
