import BucketOperator.Proofs.Azure.Requests

/-!
# Final answers

A request that is sent with a token is sent again while its answers ask for that. What is left of a
run without these answers, the requests for tokens and the waiting is the list of its requests,
each with its final answer. In these terms an operation is polled while its polls tell that it goes
on.
-/

namespace BucketOperator.Azure

open Program (recorded Returns)
open Retry (EndsAttempt Idles)

/-- A request and what came of it in the end. -/
abbrev Turn := Http.Request × Http.Reply

/-- The request that was sent with a token. -/
def unbear (request : Http.Request) : Option Http.Request :=
  match request.headers with
  | (name, _) :: headers => if name = "authorization" then some { request with headers } else none
  | [] => none

/-- The turn that an exchange is, if a request was sent with a token and needs not be sent again. -/
def final? : Exchange World → Option Turn
  | ⟨.http request, reply⟩ =>
    if Client.asksAgain (answerOf reply) then none else (unbear request).map fun r => (r, reply)
  | _ => none

/-- The requests of a run with their final answers. -/
def finals (t : Trace World) : List Turn := t.filterMap final?

section Finals

variable {credential : Credential} {request : Http.Request} {bearer : String} {t : Trace World}
  {e : Exchange World} {turn : Turn}

lemma finals_append {u : Trace World} : finals (t ++ u) = finals t ++ finals u :=
  List.filterMap_append

lemma finals_concat_of_none (h : final? e = none) : finals (t ++ [e]) = finals t := by
  rw [finals_append, finals, finals, List.filterMap_cons, h]
  exact List.append_nil _

lemma finals_concat_of_some (h : final? e = some turn) :
    finals (t ++ [e]) = finals t ++ [turn] := by
  rw [finals_append, finals, finals, List.filterMap_cons, h]
  rfl

lemma final?_bearing {reply : Http.Reply} :
    final? ⟨.http (bearing request bearer), reply⟩ =
      if Client.asksAgain (answerOf reply) then none else some (request, reply) := rfl

/-- Requests for tokens are sent without one. -/
lemma final?_of_calls {c : World.Call} (h : credential.Calls c) (r : World.Answer c) :
    final? ⟨c, r⟩ = none := by
  cases h with
  | file path => rfl
  | @request sent h =>
    have hlookup := h.lookup_authorization
    have hunborne : unbear sent = none := by
      unfold unbear
      split
      next name value headers heq =>
        rw [heq, List.lookup_cons] at hlookup
        split
        next hname => simp [hname] at hlookup
        · rfl
      · rfl
    simp only [final?, hunborne]
    split <;> rfl

end Finals

lemma judge_eq_ok {reply : Http.Reply} {response : Http.Response} :
    judge (answerOf reply) = .ok response ↔ reply = some response ∧ response.isSuccess = true := by
  cases reply with
  | none => simp [answerOf, judge, Except.bind]
  | some answer =>
    by_cases hs : answer.isSuccess = true
    · simp only [answerOf, judge, Except.bind, if_pos hs, Except.ok.injEq, Option.some.injEq]
      constructor
      · rintro rfl
        exact ⟨rfl, hs⟩
      · exact fun h => h.1
    · simp only [answerOf, judge, Except.bind, if_neg hs, reduceCtorEq, Option.some.injEq,
        false_iff]
      rintro ⟨rfl, h⟩
      exact hs h

/-- An answer that asks for another attempt is no success. -/
lemma judge_of_asksAgain {reply : Http.Reply} (h : Client.asksAgain (answerOf reply) = true) :
    ∃ failure, judge (answerOf reply) = .error failure := by
  cases hjudge : judge (answerOf reply) with
  | error failure => exact ⟨failure, rfl⟩
  | ok response =>
    obtain ⟨rfl, hsuccess⟩ := judge_eq_ok.1 hjudge
    have hretry : Http.isRetryable response.status = true := h
    rw [not_isRetryable_of_isSuccess hsuccess] at hretry
    cases hretry

/-! ### How a request fares -/

/-- The calls by which a request is sent. -/
inductive Credential.Sends (credential : Credential) (request : Http.Request) :
    World.Call → Prop where
  | clock : credential.Sends request .clock
  | sleep (duration : Nat) : credential.Sends request (.sleep duration)
  | token {c : World.Call} (h : credential.Calls c) : credential.Sends request c
  | bearing (bearer : String) : credential.Sends request (.http (bearing request bearer))

/-- What comes of a request, after other turns, with what is made of it: a final answer, or a
failure without one. -/
inductive Fares (request : Http.Request) (turns : List Turn) (t : Trace World) :
    Except Failure Http.Response × Option String → Prop where
  | final {reply : Http.Reply} {r : Except Failure Http.Response} {token' : Option String}
      (hready : IsReady token') (h : finals t = turns ++ [(request, reply)])
      (hr : judge (answerOf reply) = r) : Fares request turns t (r, token')
  | unanswered {failure : Failure} {token' : Option String} (h : finals t = turns) :
      Fares request turns t (.error failure, token')

section Faring

variable {client : Client} {request : Http.Request} {token : Option String} {t : Trace World}
  {asks : Trace World → World.Call → Prop} {S : List Turn → Prop}

/-- Waiting and requests for tokens leave the turns as they are. -/
lemma idles_recorded {credential : Credential}
    (hasks : ∀ t c, S (finals t) → credential.Sends request c → asks t c) :
    Idles (recorded World) asks fun t => S (finals t) where
  clock t ht := by
    refine ⟨hasks t _ ht .clock, ?_⟩
    rintro now _ rfl
    rwa [finals_concat_of_none rfl]
  sleep t duration ht := by
    refine ⟨hasks t _ ht (.sleep duration), ?_⟩
    rintro now _ rfl
    rwa [finals_concat_of_none rfl]

lemma calls_recorded {credential : Credential}
    (hasks : ∀ t c, S (finals t) → credential.Sends request c → asks t c) (t : Trace World)
    (c : World.Call) (ht : S (finals t)) (hc : credential.Calls c) :
    asks t c ∧ ∀ r t', recorded World t c r t' → S (finals t') := by
  refine ⟨hasks t c ht (.token hc), ?_⟩
  rintro r _ rfl
  rwa [finals_concat_of_none (final?_of_calls hc r)]

/-- A request that is sent after other turns fares in one of these ways. -/
lemma fares_of_send {turns : List Turn}
    (hasks : ∀ t c, finals t = turns → client.credential.Sends request c → asks t c)
    (ht : finals t = turns) :
    ((client.send request).runFrom token).Ensures (recorded World) asks
      (Returns (Fares request turns) fun t => finals t = turns) t := by
  refine (ensures_send (P := fun t => finals t = turns) (C := fun t => finals t = turns)
    (Q := fun t r =>
      (∃ reply, finals t = turns ++ [(request, reply)] ∧ r = judge (answerOf reply)) ∨
      finals t = turns ∧ ∃ failure, r = .error failure)
    (idles_recorded (S := (· = turns)) hasks) (fun _ h => h)
    (calls_recorded (S := (· = turns)) hasks) ?_ ht).mono (fun _ _ h => h) ?_
  · intro t bearer ht
    refine ⟨hasks t _ ht (.bearing bearer), ?_⟩
    rintro reply _ rfl
    constructor
    · intro ha
      refine .inl ⟨reply, ?_, rfl⟩
      rw [finals_concat_of_some (final?_bearing.trans (if_neg (by simp [ha]))), ht]
    · intro ha
      have hsame : finals (t ++ [⟨.http (bearing request bearer), reply⟩]) = turns := by
        rw [finals_concat_of_none (final?_bearing.trans (if_pos ha)), ht]
      refine ⟨hsame, ?_⟩
      rintro now _ rfl
      exact .inr ⟨(finals_concat_of_none rfl).trans hsame, judge_of_asksAgain ha⟩
  · rintro t' (_ | ⟨r, token'⟩) h
    · exact h
    · rcases h with ⟨hready, ⟨reply, hfinals, rfl⟩ | ⟨hfinals, failure, rfl⟩⟩ |
        ⟨-, hfinals, failure, rfl, -⟩
      · exact .final hready hfinals rfl
      · exact .unanswered hfinals
      · exact .unanswered hfinals

end Faring

/-! ### What polls tell -/

namespace Operation.Follow

/-- Whether a poll tells that the operation goes on. -/
def GoesOn : Operation.Follow → Http.Response → Prop
  | .status _, response => response.isSuccess = true ∧ ∃ status message,
      TellsStatus response status message ∧ status ∉ ["Succeeded", "Failed", "Canceled"]
  | .location _, response => response.status = 202

/-- Whether a poll tells that the operation has come to a bad end, and what it says of that. -/
def HasFailed : Operation.Follow → Http.Response → String → String → Prop
  | .status _, response, verdict, message => response.isSuccess = true ∧
      TellsStatus response verdict message ∧ verdict ∈ ["Failed", "Canceled"]
  | .location _, _, _, _ => False

/-- The polls of an operation with their answers. -/
def turns (operation : Operation.Follow) (polls : List Http.Response) : List Turn :=
  polls.map fun response => (operation.poll, some response)

/-- What is read from what came of a poll. -/
def read (operation : Operation.Follow) (reply : Http.Reply) : Except Failure Client.Progress :=
  (judge (answerOf reply)).bind operation.progress

section Telling

variable {operation : Operation.Follow} {response : Http.Response} {reply : Http.Reply}
  {polls : List Http.Response} {verdict message : String}

lemma turns_concat : operation.turns (polls ++ [response]) =
    operation.turns polls ++ [(operation.poll, some response)] :=
  List.map_append

lemma read_of_isSuccess (h : response.isSuccess = true) :
    operation.read (some response) = operation.progress response := by
  rw [read, judge_eq_ok.2 ⟨rfl, h⟩]
  rfl

lemma read_eq_ok {progress : Client.Progress} : operation.read reply = .ok progress ↔
    ∃ response, reply = some response ∧ response.isSuccess = true ∧
      operation.progress response = .ok progress := by
  constructor
  · intro h
    cases hjudge : judge (answerOf reply) with
    | error failure =>
      rw [read, hjudge] at h
      cases h
    | ok response =>
      obtain ⟨rfl, hsuccess⟩ := judge_eq_ok.1 hjudge
      rw [read_of_isSuccess hsuccess] at h
      exact ⟨response, rfl, hsuccess, h⟩
  · rintro ⟨response, rfl, hsuccess, h⟩
    rw [read_of_isSuccess hsuccess, h]

lemma read_eq_ended : operation.read reply = .ok .ended ↔
    ∃ response, reply = some response ∧ response.isSuccess = true ∧
      operation.HasEnded response := by
  simp only [read_eq_ok, progress_eq_ended]

lemma progress_eq_running (h : response.isSuccess = true) :
    operation.progress response = .ok .running ↔ operation.GoesOn response := by
  cases operation with
  | status url =>
    simp only [progress, GoesOn, h, true_and, tellsStatus_iff]
    cases (Json.Tree.parse? response.body).bind OperationStatus.read with
    | none => simp
    | some state =>
      by_cases hs : state.status = "Succeeded"
      · simp [hs]
      · by_cases hf : state.status = "Failed" ∨ state.status = "Canceled"
        · simpa [hs, hf] using Decidable.or_iff_not_imp_left.1 hf
        · simpa [hs, hf] using not_or.1 hf
  | location url => by_cases hs : response.status = 202 <;> simp [progress, GoesOn, hs]

lemma GoesOn.isSuccess (h : operation.GoesOn response) : response.isSuccess = true := by
  cases operation with
  | status url => exact h.1
  | location url =>
    have hstatus : response.status = 202 := h
    simp [Http.Response.isSuccess, hstatus]

lemma read_eq_running : operation.read reply = .ok .running ↔
    ∃ response, reply = some response ∧ operation.GoesOn response := by
  rw [read_eq_ok]
  constructor
  · rintro ⟨response, rfl, hsuccess, h⟩
    exact ⟨response, rfl, (progress_eq_running hsuccess).1 h⟩
  · rintro ⟨response, rfl, h⟩
    exact ⟨response, rfl, h.isSuccess, (progress_eq_running h.isSuccess).2 h⟩

lemma HasFailed.read_eq (h : operation.HasFailed response verdict message) :
    operation.read (some response) = .error (.operation verdict message) := by
  cases operation with
  | location url => exact h.elim
  | status url =>
    obtain ⟨hsuccess, htells, hbad⟩ := h
    obtain ⟨state, hstate, rfl, rfl⟩ := tellsStatus_iff.1 htells
    have hbad : state.status = "Failed" ∨ state.status = "Canceled" := by simpa using hbad
    have hgood : state.status ≠ "Succeeded" := by
      rintro heq
      simp [heq] at hbad
    rw [read_of_isSuccess hsuccess]
    simp only [progress, hstate, if_neg hgood, if_pos hbad]

lemma read_of_mem_turns {turn : Turn} (hpolls : ∀ poll ∈ polls, operation.GoesOn poll)
    (h : turn ∈ operation.turns polls) : operation.read turn.2 = .ok .running := by
  obtain ⟨poll, hpoll, rfl⟩ := List.mem_map.1 h
  exact read_eq_running.2 ⟨poll, rfl, hpolls poll hpoll⟩

/-- Polls that go on begin those that lead to one that does not. -/
lemma exists_append_of_turns {polls' : List Http.Response} {rest extra : List Turn}
    (hpolls : ∀ poll ∈ polls, operation.GoesOn poll) (hreply : operation.read reply ≠ .ok .running)
    (h : operation.turns polls ++ rest =
      operation.turns polls' ++ (operation.poll, reply) :: extra) :
    ∃ more, polls' = polls ++ more ∧
      rest = operation.turns more ++ (operation.poll, reply) :: extra := by
  induction polls generalizing polls' with
  | nil => exact ⟨polls', rfl, h⟩
  | cons poll polls ih =>
    have hgoes := hpolls poll List.mem_cons_self
    cases polls' with
    | nil =>
      obtain ⟨hfirst, -⟩ := List.cons.inj h
      cases (Prod.mk.inj hfirst).2
      exact absurd (read_eq_running.2 ⟨poll, rfl, hgoes⟩) hreply
    | cons poll' polls' =>
      obtain ⟨hfirst, hrest⟩ := List.cons.inj h
      cases (Prod.mk.inj hfirst).2
      obtain ⟨more, rfl, hmore⟩ := ih (fun p hp => hpolls p (List.mem_cons_of_mem _ hp)) hrest
      exact ⟨more, rfl, hmore⟩

/-- The first poll that does not go on is the same one. -/
lemma eq_of_turns {reply' : Http.Reply} {polls' : List Http.Response} {rest extra : List Turn}
    (hpolls : ∀ poll ∈ polls, operation.GoesOn poll) (hreply : operation.read reply ≠ .ok .running)
    (hpolls' : ∀ poll ∈ polls', operation.GoesOn poll)
    (hreply' : operation.read reply' ≠ .ok .running)
    (h : operation.turns polls ++ (operation.poll, reply) :: rest =
      operation.turns polls' ++ (operation.poll, reply') :: extra) :
    reply = reply' ∧ rest = extra := by
  obtain ⟨more, rfl, hmore⟩ := exists_append_of_turns hpolls hreply' h
  cases more with
  | nil =>
    obtain ⟨hfirst, hrest⟩ := List.cons.inj hmore
    exact ⟨(Prod.mk.inj hfirst).2, hrest⟩
  | cons poll more =>
    obtain ⟨hfirst, -⟩ := List.cons.inj hmore
    cases (Prod.mk.inj hfirst).2
    exact absurd (read_eq_running.2 ⟨poll, rfl, hpolls' poll (by simp)⟩) hreply

end Telling

end Operation.Follow

/-! ### The course of polling -/

/-- What comes of the polls of an operation, with what is made of it: all but the last one told that
it goes on. Where polling is given up, the last one may do so as well. -/
inductive Course (operation : Operation.Follow) : List Turn → Except Failure Unit → Prop where
  | settled {polls : List Http.Response} {reply : Http.Reply} {r : Except Failure Unit}
      (hpolls : ∀ poll ∈ polls, operation.GoesOn poll)
      (h : operation.read reply = r.map fun _ => .ended) :
      Course operation (operation.turns polls ++ [(operation.poll, reply)]) r
  | givenUp {polls : List Http.Response} {failure : Failure}
      (hpolls : ∀ poll ∈ polls, operation.GoesOn poll) :
      Course operation (operation.turns polls) (.error failure)

/-- An operation is being polled after other turns, and goes on. -/
def IsPolled (operation : Operation.Follow) (before turns : List Turn) : Prop :=
  ∃ polls, (∀ poll ∈ polls, operation.GoesOn poll) ∧ turns = before ++ operation.turns polls

section Courses

variable {client : Client} {operation : Operation.Follow} {token : Option String}
  {t : Trace World} {asks : Trace World → World.Call → Prop} {before : List Turn}

/-- When polling ends well, the last poll told of the good end. -/
lemma Course.ended {turns : List Turn} {u : Unit} (h : Course operation turns (.ok u)) :
    ∃ polls last, turns = operation.turns (polls ++ [last]) ∧
      (∀ poll ∈ polls, operation.GoesOn poll) ∧ last.isSuccess = true ∧
      operation.HasEnded last := by
  cases h with
  | @settled polls reply _ hpolls h =>
    obtain ⟨last, rfl, hlast, hended⟩ := Operation.Follow.read_eq_ended.1 h
    exact ⟨polls, last, Operation.Follow.turns_concat.symm, hpolls, hlast, hended⟩

/-- An operation that is followed takes its course. -/
theorem course_of_follow
    (hasks : ∀ t c, IsPolled operation before (finals t) →
      client.credential.Sends operation.poll c → asks t c)
    (hready : IsReady token) (ht : finals t = before) :
    ((client.follow operation).runFrom token).Ensures (recorded World) asks
      (Returns (fun t x => IsReady x.2 ∧ ∃ turns, finals t = before ++ turns ∧
        Course operation turns x.1) fun t => IsPolled operation before (finals t)) t := by
  refine ensures_follow (P := fun t => IsPolled operation before (finals t))
    (Q := fun t r => ∃ turns, finals t = before ++ turns ∧ Course operation turns r)
    (idles_recorded hasks) (fun _ h => h) (calls_recorded hasks) ?_ hready
    ⟨[], nofun, ht.trans (List.append_nil _).symm⟩
  intro t bearer ht
  refine ⟨hasks t _ ht (.bearing bearer), ?_⟩
  obtain ⟨polls, hpolls, hfinals⟩ := ht
  rintro reply _ rfl
  -- Polling may be given up wherever the operation goes on.
  have hgivenUp : ∀ {u : Trace World} {responses : List Http.Response},
      (∀ poll ∈ responses, operation.GoesOn poll) →
      finals u = before ++ operation.turns responses → ∀ {failure : Failure} {now : Nat},
        ∃ turns, finals (u ++ [⟨.clock, now⟩]) = before ++ turns ∧
          Course operation turns (.error failure) := by
    intro u responses hresponses hu failure now
    exact ⟨_, (finals_concat_of_none rfl).trans hu, .givenUp hresponses⟩
  constructor
  · intro ha
    have hnext : finals (t ++ [⟨.http (bearing operation.poll bearer), reply⟩]) =
        before ++ (operation.turns polls ++ [(operation.poll, reply)]) := by
      rw [finals_concat_of_some (final?_bearing.trans (if_neg (by simp [ha]))), hfinals,
        List.append_assoc]
    change EndsPoll _ _ _ _ _ (operation.read reply)
    cases hread : operation.read reply with
    | error failure => exact ⟨_, hnext, .settled hpolls hread⟩
    | ok progress =>
      cases progress with
      | ended => exact ⟨_, hnext, .settled hpolls hread⟩
      | running =>
        obtain ⟨response, rfl, hgoes⟩ := Operation.Follow.read_eq_running.1 hread
        have hmore : ∀ poll ∈ polls ++ [response], operation.GoesOn poll := by
          intro poll hpoll
          rcases List.mem_append.1 hpoll with hpoll | hpoll
          · exact hpolls poll hpoll
          · exact List.mem_singleton.1 hpoll ▸ hgoes
        have hturns : finals (t ++ [⟨.http (bearing operation.poll bearer), some response⟩]) =
            before ++ operation.turns (polls ++ [response]) := by
          rw [hnext, Operation.Follow.turns_concat]
        refine ⟨⟨_, hmore, hturns⟩, ?_⟩
        rintro now _ rfl
        exact hgivenUp hmore hturns
  · intro ha
    have hsame : finals (t ++ [⟨.http (bearing operation.poll bearer), reply⟩]) =
        before ++ operation.turns polls := by
      rw [finals_concat_of_none (final?_bearing.trans (if_pos ha)), hfinals]
    refine ⟨⟨polls, hpolls, hsame⟩, ?_⟩
    rintro now _ rfl
    obtain ⟨failure, hfailure⟩ := judge_of_asksAgain ha
    rw [hfailure]
    exact hgivenUp hpolls hsame

end Courses

end BucketOperator.Azure
