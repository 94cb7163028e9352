import BucketOperator.Kubernetes.Server
import BucketOperator.Proofs.Kubernetes.Asking
import BucketOperator.Proofs.Retry.Rounds

/-!
# Repeating calls of the control plane

A call of the Kubernetes API is made again while it fails for a reason that may pass and the backoff
of calls yields another interval. What the last call came to is returned. A call of the store is a
single request, so that the store returns what the reply to its last request tells.
-/

namespace BucketOperator.Kubernetes

open Json
open Program (yields_map_iff map_after_cut_iff)
open Retry (Persists Collapses)

/-! ### The law of calls -/

section Law

variable {α : Type} {attempt : Program World (Except Failure α)} {patience : Nat} {t : Trace World}
  {outcome : Except Failure α} {r : Except BucketOperator.Failure α}

/-- Whether a call has failed for a reason that may pass: throttling, an error of the server, or a
missing answer. -/
inductive IsTemporary : Except Failure α → Prop where
  | throttled (notFound : Bool) : IsTemporary (.error (.status 429 notFound))
  | server {code : Nat} (notFound : Bool) (h : 500 ≤ code ∧ code < 600) :
      IsTemporary (.error (.status code notFound))
  | unanswered : IsTemporary (.error .service)

/-- What is made of the last call: its value, or its failure as one of the control plane. -/
inductive Wraps : Except Failure α → Except BucketOperator.Failure α → Prop where
  | value (a : α) : Wraps (.ok a) (.ok a)
  | failure (cause : Failure) : Wraps (.error cause) (.error (.controlPlane cause))

/-- A call is made until it does not fail for a reason that may pass or the backoff of calls is
spent, and what the last call came to is returned. -/
def Recurs (patience : Nat) (attempt : Program World (Except Failure α)) (t : Trace World)
    (r : Except BucketOperator.Failure α) : Prop :=
  ∃ ending, Persists attempt.Yields IsTemporary Backoff.forCalls patience t ending ∧
    Wraps ending.outcome r

lemma asksAgain_eq_isTemporary :
    (fun outcome : Except Failure α => asksAgain outcome = true) = IsTemporary := by
  funext outcome
  refine propext ⟨?_, ?_⟩
  · intro h
    rcases outcome with cause | a
    · cases cause with
      | status code notFound =>
        have hcode : code = 429 ∨ 500 ≤ code ∧ code < 600 := by
          simpa [asksAgain, Failure.isPassing] using h
        rcases hcode with rfl | hcode
        · exact .throttled notFound
        · exact .server notFound hcode
      | service => exact .unanswered
      | undecodable => cases h
      | other => cases h
    · cases h
  · intro h
    cases h with
    | throttled notFound => rfl
    | server notFound h => simp [asksAgain, Failure.isPassing, h.1, h.2]
    | unanswered => rfl

lemma wraps_iff : Wraps outcome r ↔ r = asControlPlane outcome := by
  constructor
  · intro h
    cases h <;> rfl
  · rintro rfl
    cases outcome with
    | ok a => exact .value a
    | error cause => exact .failure cause

lemma yields_persist_iff : (persist patience attempt).Yields t r ↔ Recurs patience attempt t r := by
  change (Program.bind _ fun outcome => .done (asControlPlane outcome)).Yields t r ↔ _
  rw [yields_map_iff]
  simp only [Retry.yields_persist_iff, asksAgain_eq_isTemporary, Recurs, wraps_iff]
  constructor
  · rintro ⟨_, ⟨ending, h, rfl⟩, rfl⟩
    exact ⟨ending, h, rfl⟩
  · rintro ⟨ending, h, rfl⟩
    exact ⟨_, ⟨ending, h, rfl⟩, rfl⟩

lemma persist_after_cut_iff : (persist patience attempt).After t .cut ↔
    Collapses attempt.Yields IsTemporary (attempt.After · .cut) Backoff.forCalls patience t := by
  change (Program.bind _ fun outcome => .done (asControlPlane outcome)).After t .cut ↔ _
  rw [map_after_cut_iff, Retry.persist_after_cut_iff, asksAgain_eq_isTemporary]

end Law

/-! ### The last reply -/

/-- The reply to a request of the Kubernetes API. -/
def reply? : Exchange World → Option Reply
  | ⟨.kubernetes _, reply⟩ => some reply
  | _ => none

/-- The reply to the last request of the Kubernetes API. -/
def lastReply? (t : Trace World) : Option Reply := (t.filterMap reply?).getLast?

/-- What a reply tells of an object, when it is read from there. -/
inductive Tells {α : Type} (read : Tree → Option α) : Reply → Except Failure α → Prop where
  | shown {status : Nat} {body : Body} {a : α} (hstatus : ¬ (400 ≤ status ∧ status < 600))
      (ha : body.tree?.bind read = some a) : Tells read (.answered status body) (.ok a)
  | undecodable {status : Nat} {body : Body} (hstatus : ¬ (400 ≤ status ∧ status < 600))
      (h : body.tree?.bind read = none) : Tells read (.answered status body) (.error .undecodable)
  | refused {status : Nat} {body : Body} {s : Status} (hstatus : 400 ≤ status ∧ status < 600)
      (hs : body.tree?.bind Status.read = some s) :
      Tells read (.answered status body) (.error (.status s.code (s.reason == "NotFound")))
  | unexplained {status : Nat} {body : Body} (hstatus : 400 ≤ status ∧ status < 600)
      (h : body.tree?.bind Status.read = none) :
      Tells read (.answered status body) (.error (.status status false))
  | unreachable : Tells read .unreachable (.error .service)

section Replies

variable {α : Type} {read : Tree → Option α} {reply : Reply} {outcome : Except Failure α}
  {t u : Trace World}

lemma lastReply?_append (h : lastReply? u = none) : lastReply? (t ++ u) = lastReply? t := by
  rw [lastReply?, List.getLast?_eq_none_iff] at h
  rw [lastReply?, List.filterMap_append, h, List.append_nil, lastReply?]

lemma lastReply?_append_request {request : Request} :
    lastReply? (t ++ [⟨.kubernetes request, reply⟩]) = some reply := by
  rw [lastReply?, List.filterMap_append]
  exact List.getLast?_concat

lemma tells_iff : Tells read reply outcome ↔ outcome = reply.outcome.bind (Body.decode read) := by
  have hrange : ∀ {status : Nat}, (400 ≤ status && status < 600) = true ↔
      400 ≤ status ∧ status < 600 := by simp
  constructor
  · intro h
    cases h with
    | shown hstatus ha =>
      rw [Reply.outcome, if_neg (mt hrange.1 hstatus), Except.bind, Body.decode, ha]
    | undecodable hstatus h =>
      rw [Reply.outcome, if_neg (mt hrange.1 hstatus), Except.bind, Body.decode, h]
    | refused hstatus hs => rw [Reply.outcome, if_pos (hrange.2 hstatus), hs, Except.bind]
    | unexplained hstatus h => rw [Reply.outcome, if_pos (hrange.2 hstatus), h, Except.bind]
    | unreachable => rfl
  · rintro rfl
    cases reply with
    | unreachable => exact .unreachable
    | answered status body =>
      rw [Reply.outcome]
      split
      next hstatus =>
        cases hs : body.tree?.bind Status.read with
        | some s => exact .refused (hrange.1 hstatus) hs
        | none => exact .unexplained (hrange.1 hstatus) hs
      next hstatus =>
        rw [Except.bind, Body.decode]
        cases ha : body.tree?.bind read with
        | some a => exact .shown (mt hrange.2 hstatus) ha
        | none => exact .undecodable (mt hrange.2 hstatus) ha

/-! ### Calls that are single requests -/

/-- A request that is made and heard. -/
lemma yields_request_iff {β : Type} {request : Request} {heard : Reply → β} {b : β} :
    (Program.ask (.kubernetes request) fun (reply : Reply) => .done (heard reply) :
      Program World β).Yields t b ↔
        ∃ reply : Reply, t = [⟨.kubernetes request, reply⟩] ∧ b = heard reply := by
  constructor
  · intro h
    obtain ⟨(reply : Reply), _, rfl, hdone⟩ := Program.yields_ask_iff.1 h
    obtain ⟨rfl, rfl⟩ := Program.yields_done_iff.1 hdone
    exact ⟨reply, rfl, rfl⟩
  · rintro ⟨reply, rfl, rfl⟩
    exact .answered (.here _)

/-- A call sends one request, and comes to what the reply tells, or it sends none and fails. -/
def IsSingle (attempt : Program World (Except Failure α)) (heard : Reply → Except Failure α) :
    Prop :=
  attempt = .done (.error .other) ∨ ∃ request, attempt =
    .ask (.kubernetes request) fun (reply : Reply) => .done (heard reply)

lemma isSingle_get {collection name : String} :
    IsSingle (get? read collection name) fun reply => told read reply.outcome :=
  (get_cases read collection name).imp id fun ⟨request, _, h⟩ => ⟨request, h⟩

lemma isSingle_patch {kind : PatchKind} {collection name part query : String} {body : Json} :
    IsSingle (patch read kind collection name part query body)
      fun reply => reply.outcome.bind (Body.decode read) := by
  rw [patch]
  rcases send_cases (.patch kind body) collection name (part ++ "?" ++ query) with
    hsend | ⟨request, -, hsend⟩
  · rw [hsend]
    exact .inl rfl
  · rw [hsend]
    refine .inr ⟨request, ?_⟩
    change Program.ask _ _ = Program.ask _ _
    congr 1
    funext (reply : Reply)
    change Program.bind (.done reply.outcome) _ =
      .done (reply.outcome.bind (Body.decode read))
    cases reply.outcome <;> rfl

/-- Repeated calls come to what the last reply tells. -/
lemma outcome_of_lastReply {attempt : Program World (Except Failure α)}
    {heard : Reply → Except Failure α} {patience : Nat} {r : Except BucketOperator.Failure α}
    (hattempt : IsSingle attempt heard) (h : (persist patience attempt).Yields t r)
    (hreply : lastReply? t = some reply) : Wraps (heard reply) r := by
  obtain ⟨ending, hpersists, hwraps⟩ := yields_persist_iff.1 h
  rcases hattempt with rfl | ⟨request, rfl⟩
  · have hother : ∀ u (a : Except Failure α), u ⊆ t →
        (Program.done (.error .other) : Program World _).Yields u a → ¬ IsTemporary a := by
      intro u a _ ha
      obtain ⟨-, rfl⟩ := Program.yields_done_iff.1 ha
      rintro ⟨⟩
    obtain ⟨start, u, rfl, hlast⟩ := hpersists.exists_only hother
    obtain ⟨rfl, -⟩ := Program.yields_done_iff.1 hlast
    cases hreply
  · obtain ⟨before, last, after, rfl, hlast, hafter⟩ := hpersists.exists_last
    obtain ⟨answer, rfl, houtcome⟩ := yields_request_iff.1 hlast
    have hnone : lastReply? after = none := by
      rcases hafter with rfl | ⟨now, rfl⟩ <;> rfl
    rw [lastReply?_append hnone, lastReply?_append_request, Option.some.injEq] at hreply
    subst hreply
    rwa [houtcome] at hwraps

end Replies

/-! ### Operations of the store -/

section Store

variable {α : Type} {read : Tree → Option α} {reply : Reply} {t : Trace World} {patience : Nat}

/-- Whoever reads an object returns what the last reply tells: the object, that there is none, or
else why it could not be read. -/
def IsRead (read : Tree → Option α) (t : Trace World)
    (r : Except BucketOperator.Failure (Option α)) : Prop :=
  ∀ reply, lastReply? t = some reply →
    (∀ found, r = .ok found ↔ (∃ a, Tells read reply (.ok a) ∧ found = some a) ∨
      (∃ code, Tells read reply (.error (.status code true))) ∧ found = none) ∧
    ∀ failure, r = .error failure ↔ ∃ cause, Tells read reply (.error cause) ∧
      (∀ code, cause ≠ .status code true) ∧ failure = .controlPlane cause

/-- Whoever writes an object succeeds when the last reply shows it, and else returns why it was not
written. -/
def IsWritten (read : Tree → Option α) (t : Trace World) (r : Except BucketOperator.Failure Unit) :
    Prop :=
  ∀ reply, lastReply? t = some reply →
    (r = .ok () ↔ ∃ a, Tells read reply (.ok a)) ∧
    ∀ failure, r = .error failure ↔ ∃ cause, Tells read reply (.error cause) ∧
      failure = .controlPlane cause

lemma isRead_of_yields {collection name : String} {r : Except BucketOperator.Failure (Option α)}
    (h : (persist patience (get? read collection name)).Yields t r) : IsRead read t r := by
  intro reply hreply
  have hwraps := outcome_of_lastReply isSingle_get h hreply
  rw [wraps_iff] at hwraps
  subst hwraps
  simp only [tells_iff]
  rcases reply.outcome with (⟨code, _ | _⟩ | _ | _ | _) | body
  case ok =>
    simp only [told, Except.bind, Body.decode]
    split <;> simp [asControlPlane, Except.mapError, Except.map, eq_comm]
  all_goals simp [told, asControlPlane, Except.mapError, Except.bind, eq_comm]

lemma isWritten_of_yields {kind : PatchKind} {collection name part query : String} {body : Json}
    {r : Except BucketOperator.Failure α}
    (h : (persist patience (patch read kind collection name part query body)).Yields t r) :
    IsWritten read t (r.map fun _ => ()) := by
  intro reply hreply
  have hwraps := outcome_of_lastReply isSingle_patch h hreply
  simp only [tells_iff]
  generalize reply.outcome.bind (Body.decode read) = outcome at hwraps
  cases hwraps with
  | value a => simp [Except.map]
  | failure cause => simp [Except.map, eq_comm]

lemma isWritten_patchFinalizers {kind : Kind α} {object : α} {finalizers : List String}
    {r : Except BucketOperator.Failure Unit}
    (h : (kind.patchFinalizers patience object finalizers).Yields t r) :
    IsWritten kind.read t r := by
  obtain ⟨outcome, hpatch, rfl⟩ := yields_map_iff.1 h
  exact isWritten_of_yields hpatch

/-- Without a request there is no reply. -/
lemma isWritten_of_done {r r' : Except BucketOperator.Failure Unit}
    (h : (Program.done r : Program World _).Yields t r') : IsWritten read t r' := by
  obtain ⟨rfl, rfl⟩ := Program.yields_done_iff.1 h
  rintro reply ⟨⟩

lemma isWritten_addFinalizer {kind : Kind α} {object : α} {finalizer : String}
    {r : Except BucketOperator.Failure Unit}
    (h : (kind.addFinalizer patience object finalizer).Yields t r) : IsWritten kind.read t r := by
  rw [Kind.addFinalizer] at h
  split at h
  · exact isWritten_patchFinalizers h
  · exact isWritten_of_done h

lemma isWritten_removeFinalizer {kind : Kind α} {object : α} {finalizer : String}
    {r : Except BucketOperator.Failure Unit}
    (h : (kind.removeFinalizer patience object finalizer).Yields t r) :
    IsWritten kind.read t r := by
  rw [Kind.removeFinalizer] at h
  split at h
  · exact isWritten_patchFinalizers h
  · exact isWritten_of_done h

end Store

/-- A call is made again exactly after it has failed for a reason that may pass while the backoff of
calls yields another interval, which is waited: 100 ms at first and then twice as long each time, up
to 10 s, for two minutes. What the last call came to is returned, and nothing is asked for after it
but the time. So the store returns what the reply to its last request tells. -/
theorem calls_repeated (patience : Nat) :
    (∀ (α : Type) (attempt : Program World (Except Failure α)) t r,
      (persist patience attempt).Yields t r ↔ Recurs patience attempt t r) ∧
    (∀ (α : Type) (attempt : Program World (Except Failure α)) t,
      (persist patience attempt).After t .cut ↔ Collapses attempt.Yields IsTemporary
        (attempt.After · .cut) Backoff.forCalls patience t) ∧
    (∀ start waits, (∃ left, Backoff.forCalls.Grants start waits left) ↔
      ∀ i wait, waits[i]? = some wait → Backoff.IsCallWait start i wait) ∧
    (∀ namespaceName name t r, (Bucket.load patience namespaceName name).Yields t r →
      IsRead Bucket.read t r) ∧
    (∀ bucket t r, (Bucket.addFinalizer patience bucket).Yields t r → IsWritten Bucket.read t r) ∧
    (∀ bucket t r, (Bucket.removeFinalizer patience bucket).Yields t r →
      IsWritten Bucket.read t r) ∧
    ∀ bucket status t r, (Bucket.patchStatus patience bucket status).Yields t r →
      IsWritten Bucket.read t r := by
  refine ⟨fun _ _ _ _ => yields_persist_iff, fun _ _ _ => persist_after_cut_iff,
    fun _ _ => Backoff.grants_forCalls_iff, fun _ _ _ _ => isRead_of_yields,
    fun _ _ _ => isWritten_addFinalizer, fun _ _ _ => isWritten_removeFinalizer, ?_⟩
  intro bucket status t r h
  obtain ⟨outcome, hpatch, rfl⟩ := yields_map_iff.1 h
  exact isWritten_of_yields hpatch

/-! ### A record that is absent -/

section Absent

/-- That an object is absent is told by a status. -/
lemma outcome_absent : Server.absent.outcome = .error (.status 404 true) := by
  have hs : (Body.json (Server.failure 404 "NotFound")).tree?.bind Status.read =
      some ⟨404, "NotFound"⟩ := by
    decide +kernel
  rw [Server.absent, Reply.outcome, if_pos (by decide), hs]
  rfl

/-- The request for a record. -/
def recordRequest : Request := ⟨.get, buckets "loki" ++ "/" ++ "tempo", none⟩

lemma get_record : get? Bucket.read (buckets "loki") "tempo" =
    .ask (.kubernetes recordRequest) fun (reply : Reply) =>
      .done (told Bucket.read reply.outcome) := by
  have htarget : splitTarget? (buckets "loki" ++ "/" ++ "tempo" ++ "") =
      some (buckets "loki" ++ "/" ++ "tempo", none) := by
    decide +kernel
  rw [get?_eq, send, if_neg (by decide), Request.of?, htarget]
  rfl

/-- Nobody answers, and 100 ms are waited. -/
def silentRound : Retry.Round (Except Failure (Option Bucket)) :=
  ⟨[⟨.kubernetes recordRequest, Reply.unreachable⟩], .error .service, ⟨1, 100000000⟩⟩

/-- The record is asked for twice, and there is none. -/
def absentRun : Trace World :=
  ⟨.clock, (0 : Nat)⟩ :: (silentRound.exchanges ++ [⟨.kubernetes recordRequest, Server.absent⟩])

lemma recurs_absentRun :
    Recurs 2 (get? Bucket.read (buckets "loki") "tempo") absentRun (.ok none) := by
  have htold : told Bucket.read Server.absent.outcome = .ok none := by
    rw [outcome_absent]
    rfl
  have hrounds : Retry.Repeated (get? Bucket.read (buckets "loki") "tempo").Yields IsTemporary 0
      Backoff.forCalls [silentRound] (Backoff.calling 1) := by
    rw [get_record]
    exact Retry.repeated_cons_iff.2 ⟨.answered (.here _), .unanswered, by decide, by decide, _,
      Backoff.advance_calling 0, Retry.repeated_nil⟩
  refine ⟨.settled (.ok none), ⟨0, [silentRound], _, rfl, by decide, .settled hrounds ?_ nofun⟩,
    .value none⟩
  rw [get_record, ← htold]
  exact .answered (.here _)

/-- Loading a record that is absent says so when the second request was answered. -/
theorem absentRun_told : (Bucket.load 2 "loki" "tempo").Yields absentRun (.ok none) ∧
    lastReply? absentRun = some Server.absent ∧
    ∃ code, Tells Bucket.read Server.absent (.error (.status code true)) := by
  have hyields : (Bucket.load 2 "loki" "tempo").Yields absentRun (.ok none) :=
    ((calls_repeated 2).1 _ _ _ _).2 recurs_absentRun
  refine ⟨hyields, rfl, ?_⟩
  rcases (((calls_repeated 2).2.2.2.1 _ _ _ _ hyields _ rfl).1 none).1 rfl with
    ⟨bucket, -, hfound⟩ | ⟨htold, -⟩
  · cases hfound
  · exact htold

end Absent

end BucketOperator.Kubernetes
