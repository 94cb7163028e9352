import BucketOperator.Proofs.Metrics.Registry
import BucketOperator.Proofs.Reconcile.Readiness
import Mathlib.Data.List.Perm.Basic

/-!
# What the metrics tell about invocations

Every call to an adapter is recorded once, with how it went, and so are the deletions that succeed
and the invocations that return. So the registry accounts for all of them, in whatever order
invocations that run at the same time come to record.
-/

namespace BucketOperator.Reconcile

open Metrics (Event Registry)
open Metrics.Registry (statusLabel)

/-! ### What is recorded and what is due -/

namespace Call

/-- The event that a call records. -/
def event? : Call → Option Event
  | .record event => some event
  | _ => none

/-- The operation of an adapter that is called. -/
def operation? : Call → Option String
  | .doesExist _ => some "exists_bucket"
  | .change c _ => some c.name
  | _ => none

/-- The provider whose adapters have been set up. -/
def served? : (c : Call) → c.Answer → Option CloudProvider
  | .services cluster, r => if (failureIn? r).isNone then some cluster.provider else none
  | _, _ => none

/-- The name of the bucket that has been deleted at the provider. -/
def deleted? : (c : Call) → c.Answer → Option String
  | .change .deleteBucket bucket, r =>
    if (failureIn? r).isNone then some bucket.spec.name else none
  | _, _ => none

end Call

/-- A call to an adapter, and whether it returned without a failure. -/
structure AdapterCall where
  provider : CloudProvider
  operation : String
  succeeded : Bool
  deriving DecidableEq

namespace AdapterCall

def event (call : AdapterCall) : Event :=
  .providerCalled call.provider.name call.operation call.succeeded 0

/-- The call in an exchange, given the provider whose adapters have been set up. -/
def of? (provider? : Option CloudProvider) (e : Exchange Collaborators) : Option AdapterCall :=
  e.call.operation?.bind fun operation =>
    provider?.map fun provider => ⟨provider, operation, (e.call.failure? e.answer).isNone⟩

end AdapterCall

/-- The events of a trace. -/
def recordedIn (t : Trace Collaborators) : List Event := t.filterMap fun e => e.call.event?

/-- The provider whose adapters have been set up in a trace. -/
def providerIn? (t : Trace Collaborators) : Option CloudProvider :=
  t.findSome? fun e => e.call.served? e.answer

/-- What is to be recorded about an exchange with an adapter, but for the duration. -/
def due (provider? : Option CloudProvider) (e : Exchange Collaborators) : List Event :=
  ((AdapterCall.of? provider? e).map AdapterCall.event).toList ++
    ((e.call.deleted? e.answer).map Event.bucketDeleted).toList

/-- A trace records what is due, once, and nothing else. -/
def Balanced (provider? : Option CloudProvider) (t : Trace Collaborators) : Prop :=
  (recordedIn t).map Event.untimed = t.flatMap (due provider?)

/-- However their calls are answered, steps record what is due. -/
def Tallied {α : Type} (provider : CloudProvider) (steps : Steps α) : Prop :=
  ∀ t outcome, steps.run.Yields t outcome → Balanced (some provider) t

section Phases

variable {α β : Type} {provider : CloudProvider} {provider? : Option CloudProvider}
  {bucket : Bucket} {t u : Trace Collaborators} {x : Steps α} {f : α → Steps β}

lemma recordedIn_append : recordedIn (t ++ u) = recordedIn t ++ recordedIn u :=
  List.filterMap_append

lemma balanced_nil : Balanced provider? [] := rfl

lemma Balanced.append (ht : Balanced provider? t) (hu : Balanced provider? u) :
    Balanced provider? (t ++ u) := by
  rw [Balanced, recordedIn_append, List.map_append, List.flatMap_append, ht, hu]

lemma tallied_pure (a : α) : Tallied provider (pure a : Steps α) := by
  intro t outcome h
  obtain ⟨rfl, -⟩ := Program.yields_done_iff.1 h
  exact balanced_nil

lemma Tallied.bind (hx : Tallied provider x) (hf : ∀ a, Tallied provider (f a)) :
    Tallied provider (x >>= f) := by
  intro t outcome h
  rcases Program.yields_steps_bind_iff.1 h with ⟨failure, h, -⟩ | ⟨t₁, t₂, a, rfl, h₁, h₂⟩
  · exact hx t _ h
  · exact (hx t₁ _ h₁).append (hf a t₂ outcome h₂)

lemma yields_answer_iff {c : Call} {outcomeOf : c.Answer → Except Failure α}
    {outcome : Except Failure α} :
    (ExceptT.mk (.ask c fun r => .done (outcomeOf r)) : Steps α).run.Yields t outcome ↔
      ∃ r, t = [⟨c, r⟩] ∧ outcome = outcomeOf r := by
  simp [ExceptT.run, ExceptT.mk, Program.yields_ask_iff]

/-- A call to another collaborator than the adapters. -/
lemma tallied_answer {c : Call} {outcomeOf : c.Answer → Except Failure α}
    (h : ∀ r, Balanced (some provider) [⟨c, r⟩]) :
    Tallied provider (ExceptT.mk (.ask c fun r => .done (outcomeOf r)) : Steps α) := by
  intro t outcome hyields
  obtain ⟨r, rfl, -⟩ := yields_answer_iff.1 hyields
  exact h r

/-- An observed call stands between readings of the time and is recorded. -/
lemma yields_observe_iff {c : Call} {outcomeOf : c.Answer → Except Failure α} {operation : String}
    {outcome : Except Failure α} :
    (Steps.observe provider operation (.ask c fun r => .done (outcomeOf r))).run.Yields t outcome ↔
      ∃ (start : Nat) (r : c.Answer) (now : Nat), outcome = outcomeOf r ∧
        t = [⟨.clock, start⟩, ⟨c, r⟩, ⟨.clock, now⟩,
          ⟨.record (.providerCalled provider.name operation (outcomeOf r).isOk (now - start)),
            ()⟩] := by
  constructor
  · intro h
    obtain ⟨start, _, rfl, h₁⟩ := Program.yields_ask_iff.1 h
    obtain ⟨r, _, rfl, h₂⟩ := Program.yields_ask_iff.1 h₁
    obtain ⟨now, _, rfl, h₃⟩ := Program.yields_ask_iff.1 h₂
    obtain ⟨⟨⟩, _, rfl, h₄⟩ := Program.yields_ask_iff.1 h₃
    obtain ⟨rfl, rfl⟩ := Program.yields_done_iff.1 h₄
    exact ⟨start, r, now, rfl, rfl⟩
  · rintro ⟨start, r, now, rfl, rfl⟩
    exact .answered (.answered (.answered (.answered (.here _))))

lemma tallied_observe {c : Call} {outcomeOf : c.Answer → Except Failure α} {operation : String}
    (hc : c.event? = none)
    (h : ∀ r, due (some provider) ⟨c, r⟩ =
      [.providerCalled provider.name operation (outcomeOf r).isOk 0]) :
    Tallied provider (Steps.observe provider operation (.ask c fun r => .done (outcomeOf r))) := by
  intro t outcome hyields
  obtain ⟨start, r, now, -, rfl⟩ := yields_observe_iff.1 hyields
  simp only [Balanced, recordedIn, List.filterMap_cons, List.flatMap_cons, hc, h]
  rfl

lemma tallied_doesExist : Tallied provider (Steps.doesExist provider bucket) := by
  refine tallied_observe rfl ?_
  rintro (failure | found) <;> rfl

lemma tallied_change {c : Change} (hc : c ≠ .deleteBucket) :
    Tallied provider (Steps.change provider c bucket) := by
  refine tallied_observe rfl ?_
  cases c with
  | deleteBucket => exact absurd rfl hc
  | _ => rintro (failure | ⟨⟩) <;> rfl

/-- A deletion is recorded once more if it succeeds. -/
lemma tallied_delete_bind {y : Steps β} (hy : Tallied provider y) :
    Tallied provider (Steps.change provider .deleteBucket bucket >>= fun _ =>
      Steps.record (.bucketDeleted bucket.spec.name) >>= fun _ => y) := by
  intro t outcome h
  rcases Program.yields_steps_bind_iff.1 h with ⟨failure, h, -⟩ | ⟨t₁, t₂, ⟨⟩, rfl, h₁, h₂⟩
  · obtain ⟨start, r, now, hr, rfl⟩ := yields_observe_iff.1 h
    cases hr
    rfl
  · -- The call alone is not balanced: its deletion is due until the next event.
    obtain ⟨start, r, now, hr, rfl⟩ := yields_observe_iff.1 h₁
    cases hr
    obtain ⟨⟨⟩, t₃, rfl, h₃⟩ := Program.yields_ask_iff.1 h₂
    have hrest : Balanced (some provider) t₃ := hy t₃ outcome h₃
    exact Balanced.append (t := [_, ⟨.change .deleteBucket bucket, .ok ()⟩, _, _, _]) rfl hrest

lemma tallied_letGo : Tallied provider (letGo bucket) :=
  Tallied.bind (tallied_answer fun _ => rfl) fun _ => tallied_pure _

lemma tallied_purge : Tallied provider (purge provider bucket) := by
  refine tallied_delete_bind ?_
  split
  · exact (tallied_change (by decide)).bind fun _ => tallied_letGo
  · exact tallied_letGo

lemma tallied_release : Tallied provider (release provider bucket) := by
  rw [release_eq]
  refine tallied_doesExist.bind ?_
  intro found
  split
  · exact tallied_purge
  · exact tallied_letGo

lemma tallied_report : Tallied provider (report bucket) := by
  unfold report
  split
  · exact Tallied.bind (tallied_answer fun _ => rfl) fun _ => tallied_pure _
  · exact tallied_pure _

lemma tallied_place {found : Bool} : Tallied provider (place provider bucket found) := by
  refine (tallied_change (by cases found <;> decide)).bind fun _ => ?_
  refine (tallied_change (by decide)).bind fun _ => ?_
  split
  · exact (tallied_change (by decide)).bind fun _ => tallied_report
  · exact tallied_report

lemma tallied_converge : Tallied provider (converge provider bucket) := by
  rw [converge_eq]
  refine Tallied.bind (tallied_answer fun _ => rfl) fun _ => ?_
  exact tallied_doesExist.bind fun _ => tallied_place

/-- Before the adapters have been set up, nothing is due; from then on their provider is known. -/
lemma balanced_proceed {outcome : Except Failure Outcome}
    (h : (proceed bucket).run.Yields t outcome) :
    Balanced (providerIn? t) t ∧
      (providerIn? t = none → ∀ e ∈ t, e.call.operation? = none) := by
  rcases Program.yields_steps_bind_iff.1 h with
    ⟨failure, hresolve, -⟩ | ⟨_, _, cluster, rfl, hresolve, h₁⟩
  · obtain ⟨r, rfl, -⟩ := yields_answer_iff.1 hresolve
    exact ⟨rfl, by simp [Call.operation?]⟩
  obtain ⟨_, rfl, -⟩ := yields_answer_iff.1 hresolve
  rcases Program.yields_steps_bind_iff.1 h₁ with
    ⟨failure, hserve, -⟩ | ⟨_, u, _, rfl, hserve, h₂⟩
  · obtain ⟨r, rfl, hr⟩ := yields_answer_iff.1 hserve
    cases hr
    exact ⟨rfl, by simp [Call.operation?]⟩
  obtain ⟨r, rfl, hr⟩ := yields_answer_iff.1 hserve
  cases hr
  have hu : Balanced (some cluster.provider) u := by
    split at h₂
    · exact tallied_release u outcome h₂
    · exact tallied_converge u outcome h₂
  refine ⟨Balanced.append (t := [_, _]) rfl hu, ?_⟩
  rintro ⟨⟩

lemma balanced_reconcile {namespaceName name : String} {outcome : Except Failure Outcome}
    (h : (reconcile namespaceName name).run.Yields t outcome) :
    Balanced (providerIn? t) t ∧
      (providerIn? t = none → ∀ e ∈ t, e.call.operation? = none) := by
  rw [reconcile_eq] at h
  rcases Program.yields_steps_bind_iff.1 h with ⟨failure, hload, -⟩ | ⟨_, u, found, rfl, hload, h₁⟩
  · obtain ⟨r, rfl, -⟩ := yields_answer_iff.1 hload
    exact ⟨rfl, by simp [Call.operation?]⟩
  obtain ⟨r, rfl, -⟩ := yields_answer_iff.1 hload
  cases found with
  | none =>
    obtain ⟨rfl, -⟩ := Program.yields_done_iff.1 h₁
    exact ⟨rfl, by simp [Call.operation?]⟩
  | some bucket =>
    obtain ⟨hbalanced, hnone⟩ := balanced_proceed h₁
    have hprovider : providerIn? ([⟨.load namespaceName name, r⟩] ++ u) = providerIn? u := rfl
    rw [hprovider]
    refine ⟨Balanced.append rfl hbalanced, ?_⟩
    intro hu e he
    rcases List.mem_cons.1 he with rfl | he
    · rfl
    · exact hnone hu e he

/-- An invocation is a reconciliation between readings of the time, and is recorded. -/
lemma yields_invoke_iff {namespaceName name : String} {outcome : Except Failure Outcome} :
    (invoke namespaceName name).Yields t outcome ↔
      ∃ (start : Nat) (u : Trace Collaborators) (now : Nat),
        (reconcile namespaceName name).run.Yields u outcome ∧
        t = (⟨.clock, start⟩ :: (u ++ [⟨.clock, now⟩])) ++
          [⟨.record (eventOf (now - start) outcome), ()⟩] := by
  constructor
  · intro h
    obtain ⟨start, _, rfl, h₁⟩ := Program.yields_ask_iff.1 h
    obtain ⟨u, _, _, rfl, hu, h₂⟩ := Program.yields_bind_iff.1 h₁
    obtain ⟨now, _, rfl, h₃⟩ := Program.yields_ask_iff.1 h₂
    obtain ⟨⟨⟩, _, rfl, h₄⟩ := Program.yields_ask_iff.1 h₃
    obtain ⟨rfl, rfl⟩ := Program.yields_done_iff.1 h₄
    exact ⟨start, u, now, hu, by simp⟩
  · rintro ⟨start, u, now, hu, rfl⟩
    refine Program.yields_ask_iff.2 ⟨start, _, rfl, Program.yields_bind_iff.2 ?_⟩
    exact ⟨u, _, outcome, List.append_assoc .., hu, .answered (.answered (.here _))⟩

lemma balanced_invoke {namespaceName name : String} {outcome : Except Failure Outcome}
    (h : (invoke namespaceName name).Yields t outcome) :
    (recordedIn t).map Event.untimed = t.flatMap (due (providerIn? t)) ++ [eventOf 0 outcome] ∧
      (providerIn? t = none → ∀ e ∈ t, e.call.operation? = none) := by
  obtain ⟨start, u, now, hu, rfl⟩ := yields_invoke_iff.1 h
  obtain ⟨hbalanced, hnone⟩ := balanced_reconcile hu
  have hprovider : providerIn? ((⟨.clock, start⟩ :: (u ++ [⟨.clock, now⟩])) ++
      [⟨.record (eventOf (now - start) outcome), ()⟩]) = providerIn? u := by
    simp [providerIn?, List.findSome?_append, Call.served?]
  have hbody : Balanced (providerIn? u) (⟨.clock, start⟩ :: (u ++ [⟨.clock, now⟩])) :=
    Balanced.append (t := [_]) rfl (hbalanced.append rfl)
  have huntimed : (eventOf (now - start) outcome).untimed = eventOf 0 outcome := by
    cases outcome <;> rfl
  rw [hprovider]
  constructor
  · rw [recordedIn_append, List.map_append, hbody, List.flatMap_append, List.append_assoc,
      ← huntimed]
    rfl
  · intro hu e he
    simp only [List.mem_cons, List.mem_append, List.not_mem_nil, or_false] at he
    rcases he with (rfl | he | rfl) | rfl
    · rfl
    · exact hnone hu e he
    · rfl
    · rfl

end Phases

/-! ### Invocations -/

/-- An invocation that has returned, with the answers it got and its outcome. -/
structure Visit where
  namespaceName : String
  name : String
  trace : Trace Collaborators
  outcome : Except Failure Outcome
  returned : (invoke namespaceName name).Yields trace outcome

namespace Visit

variable (visit : Visit)

/-- The events that an invocation has recorded. -/
def events : List Event := recordedIn visit.trace

/-- The calls to adapters in an invocation, which are all to the same provider. -/
def calls : List AdapterCall :=
  visit.trace.filterMap (AdapterCall.of? (providerIn? visit.trace))

/-- The names of the buckets that have been deleted at the provider in an invocation. -/
def deleted : List String := visit.trace.filterMap fun e => e.call.deleted? e.answer

/-- Everything that an invocation has to record, but for durations. -/
def dues : List Event :=
  visit.calls.map AdapterCall.event ++ visit.deleted.map .bucketDeleted ++
    [eventOf 0 visit.outcome]

/-- The calls are those of the trace, and none is left out. -/
lemma map_operation_calls :
    visit.calls.map AdapterCall.operation = visit.trace.filterMap fun e => e.call.operation? := by
  rw [calls, List.map_filterMap]
  apply List.filterMap_congr
  intro e he
  cases hprovider : providerIn? visit.trace with
  | none => simp [AdapterCall.of?, (balanced_invoke visit.returned).2 hprovider e he]
  | some provider => cases h : e.call.operation? <;> simp [AdapterCall.of?, h]

lemma perm_dues : (visit.events.map Event.untimed).Perm visit.dues := by
  have hdue : visit.trace.flatMap (due (providerIn? visit.trace)) = visit.trace.flatMap fun e =>
      ((AdapterCall.of? (providerIn? visit.trace) e).map AdapterCall.event).toList ++
        ((e.call.deleted? e.answer).map Event.bucketDeleted).toList := rfl
  rw [events, (balanced_invoke visit.returned).1, dues, calls, deleted, List.map_filterMap,
    List.map_filterMap, hdue]
  refine .append_right _ ?_
  rw [List.filterMap_eq_flatMap_toList, List.filterMap_eq_flatMap_toList]
  exact (List.flatMap_append_perm _ _ _).symm

end Visit

/-- The registry tells how many invocations have returned in which way, which calls to adapters
they have made, and which buckets they have deleted. -/
structure Accounted (visits : List Visit) (r : Registry) : Prop where
  succeeded : r.reconciliations.value ["success"] = visits.countP fun v => v.outcome.isOk
  failed : r.reconciliations.value ["error"] = visits.countP fun v => !v.outcome.isOk
  timed : ∀ labels, r.reconcileDurations.samples labels = r.reconciliations.value labels
  /-- Every failure is counted under its own category. -/
  errors : ∀ reason, r.errors.value [reason] =
    visits.countP fun v => (failureIn? v.outcome).map Failure.reason = some reason
  allErrors : r.errors.total = r.reconciliations.value ["error"]
  /-- No call to an adapter is left out. -/
  complete : ∀ visit ∈ visits, visit.calls.map AdapterCall.operation =
    visit.trace.filterMap fun e => e.call.operation?
  calls : ∀ (provider : CloudProvider) operation succeeded,
    r.providerCalls.value [operation, provider.name, statusLabel succeeded] =
      (visits.flatMap Visit.calls).count ⟨provider, operation, succeeded⟩
  allCalls : ∀ (provider : CloudProvider) operation,
    r.providerCalls.value [operation, provider.name, "success"] +
        r.providerCalls.value [operation, provider.name, "error"] =
      (visits.flatMap Visit.calls).countP fun call =>
        call.provider = provider ∧ call.operation = operation
  timedCalls : ∀ (provider : CloudProvider) operation,
    r.providerDurations.samples [operation, provider.name] =
      (visits.flatMap Visit.calls).countP fun call =>
        call.provider = provider ∧ call.operation = operation
  deletions : ∀ name, r.deletions.value [name] = 1 ↔ ∃ visit ∈ visits, ∃ bucket,
    bucket.spec.name = name ∧ ⟨.change .deleteBucket bucket, .ok ()⟩ ∈ visit.trace
  cumulative : r.IsCumulative

section Runs

variable {visits : List Visit} {r : Registry} {events : List Event}

/-- Everything that invocations have to record, but for durations. -/
def duesOf (visits : List Visit) : List Event :=
  (visits.flatMap Visit.calls).map AdapterCall.event ++
    (visits.flatMap Visit.deleted).map .bucketDeleted ++
    visits.map fun v => eventOf 0 v.outcome

lemma perm_duesOf (visits : List Visit) :
    ((visits.flatMap Visit.events).map Event.untimed).Perm (duesOf visits) := by
  induction visits with
  | nil => exact .nil
  | cons v visits ih =>
    have hv : (v.events.map Event.untimed).Perm v.dues := v.perm_dues
    rw [List.flatMap_cons, List.map_append]
    refine (hv.append ih).trans ?_
    rw [List.perm_iff_count]
    intro event
    simp only [Visit.dues, duesOf, List.flatMap_cons, List.map_append, List.map_cons,
      List.count_append, List.count_cons, List.count_nil]
    omega

lemma filterMap_duesOf (label? : Event → Option (List String)) :
    (duesOf visits).filterMap label? =
      (visits.flatMap Visit.calls).filterMap (fun call => label? call.event) ++
        (visits.flatMap Visit.deleted).filterMap (fun name => label? (.bucketDeleted name)) ++
        visits.filterMap fun v => label? (eventOf 0 v.outcome) := by
  simp [duesOf, List.filterMap_append, List.filterMap_map]

lemma ended_duesOf : (duesOf visits).filterMap Event.ended? =
    visits.map fun v => [statusLabel v.outcome.isOk] := by
  have hcall : ∀ call : AdapterCall, call.event.ended? = none := fun _ => rfl
  have hdeleted : ∀ name, (Event.bucketDeleted name).ended? = none := fun _ => rfl
  have hended : ∀ outcome, (eventOf 0 outcome).ended? = some [statusLabel outcome.isOk] := by
    rintro (failure | outcome) <;> rfl
  simp [filterMap_duesOf, hcall, hdeleted, hended]

lemma failed_duesOf : (duesOf visits).filterMap Event.failed? =
    visits.filterMap fun v => (failureIn? v.outcome).map fun failure => [failure.reason] := by
  have hcall : ∀ call : AdapterCall, call.event.failed? = none := fun _ => rfl
  have hdeleted : ∀ name, (Event.bucketDeleted name).failed? = none := fun _ => rfl
  have hfailed : ∀ outcome, (eventOf 0 outcome).failed? =
      (failureIn? outcome).map fun failure => [failure.reason] := by
    rintro (failure | outcome) <;> rfl
  simp [filterMap_duesOf, hcall, hdeleted, hfailed]

lemma called_duesOf : (duesOf visits).filterMap Event.called? =
    (visits.flatMap Visit.calls).map fun call =>
      [call.operation, call.provider.name, statusLabel call.succeeded] := by
  have hcall : ∀ call : AdapterCall, call.event.called? =
      some [call.operation, call.provider.name, statusLabel call.succeeded] := fun _ => rfl
  have hdeleted : ∀ name, (Event.bucketDeleted name).called? = none := fun _ => rfl
  have hended : ∀ outcome, (eventOf 0 outcome).called? = none := by
    rintro (failure | outcome) <;> rfl
  simp [filterMap_duesOf, hcall, hdeleted, hended]

lemma asked_duesOf : (duesOf visits).filterMap Event.asked? =
    (visits.flatMap Visit.calls).map fun call => [call.operation, call.provider.name] := by
  have hcall : ∀ call : AdapterCall, call.event.asked? =
      some [call.operation, call.provider.name] := fun _ => rfl
  have hdeleted : ∀ name, (Event.bucketDeleted name).asked? = none := fun _ => rfl
  have hended : ∀ outcome, (eventOf 0 outcome).asked? = none := by
    rintro (failure | outcome) <;> rfl
  simp [filterMap_duesOf, hcall, hdeleted, hended]

lemma deleted_duesOf : (duesOf visits).filterMap Event.deleted? =
    (visits.flatMap Visit.deleted).map fun name => [name] := by
  have hcall : ∀ call : AdapterCall, call.event.deleted? = none := fun _ => rfl
  have hdeleted : ∀ name, (Event.bucketDeleted name).deleted? = some [name] := fun _ => rfl
  have hended : ∀ outcome, (eventOf 0 outcome).deleted? = none := by
    rintro (failure | outcome) <;> rfl
  simp [filterMap_duesOf, hcall, hdeleted, hended]

lemma statusLabel_inj {ok ok' : Bool} : statusLabel ok = statusLabel ok' ↔ ok = ok' := by
  cases ok <;> cases ok' <;> decide

lemma providerName_inj {provider provider' : CloudProvider} :
    provider.name = provider'.name ↔ provider = provider' := by
  cases provider <;> cases provider' <;> decide

lemma count_ended (ok : Bool) :
    ((duesOf visits).filterMap Event.ended?).count [statusLabel ok] =
      visits.countP fun v => v.outcome.isOk = ok := by
  rw [ended_duesOf, List.count_eq_countP, List.countP_map]
  apply List.countP_congr
  intro v _
  simp [statusLabel_inj]

lemma count_called (provider : CloudProvider) (operation : String) (succeeded : Bool) :
    ((duesOf visits).filterMap Event.called?).count
        [operation, provider.name, statusLabel succeeded] =
      (visits.flatMap Visit.calls).count ⟨provider, operation, succeeded⟩ := by
  rw [called_duesOf, List.count_eq_countP, List.countP_map, List.count_eq_countP]
  apply List.countP_congr
  rintro ⟨provider', operation', succeeded'⟩ _
  simp [statusLabel_inj, providerName_inj]
  tauto

/-- A call has either succeeded or failed. -/
lemma count_add_count (calls : List AdapterCall) (provider : CloudProvider) (operation : String) :
    calls.count ⟨provider, operation, true⟩ + calls.count ⟨provider, operation, false⟩ =
      calls.countP fun call => call.provider = provider ∧ call.operation = operation := by
  induction calls with
  | nil => rfl
  | cons call calls ih =>
    obtain ⟨provider', operation', succeeded⟩ := call
    rw [List.count_cons, List.count_cons, List.countP_cons, ← ih]
    by_cases h : provider' = provider ∧ operation' = operation
    · cases succeeded <;> simp [h] <;> omega
    · cases succeeded <;> simp [h]

lemma count_asked (provider : CloudProvider) (operation : String) :
    ((duesOf visits).filterMap Event.asked?).count [operation, provider.name] =
      (visits.flatMap Visit.calls).countP fun call =>
        call.provider = provider ∧ call.operation = operation := by
  rw [asked_duesOf, List.count_eq_countP, List.countP_map]
  apply List.countP_congr
  intro call _
  simp [providerName_inj, and_comm]

lemma count_failed (reason : String) : ((duesOf visits).filterMap Event.failed?).count [reason] =
    visits.countP fun v => (failureIn? v.outcome).map Failure.reason = some reason := by
  rw [failed_duesOf, List.count_filterMap]
  apply List.countP_congr
  intro v _
  cases v.outcome <;> simp [failureIn?]

lemma length_failed : ((duesOf visits).filterMap Event.failed?).length =
    visits.countP fun v => v.outcome.isOk = false := by
  rw [failed_duesOf, List.length_filterMap_eq_countP]
  apply List.countP_congr
  intro v _
  cases v.outcome <;> simp [failureIn?, Except.isOk, Except.toBool]

lemma deleted?_eq_some_iff {e : Exchange Collaborators} {name : String} :
    e.call.deleted? e.answer = some name ↔
      ∃ bucket, bucket.spec.name = name ∧ e = ⟨.change .deleteBucket bucket, .ok ()⟩ := by
  constructor
  · intro h
    obtain ⟨c, r⟩ := e
    cases c with
    | change change bucket =>
      cases change with
      | deleteBucket =>
        cases r with
        | error failure => cases h
        | ok u => exact ⟨bucket, Option.some_inj.1 h, rfl⟩
      | _ => cases h
    | _ => cases h
  · rintro ⟨bucket, rfl, rfl⟩
    rfl

lemma mem_deleted {name : String} : [name] ∈ (duesOf visits).filterMap Event.deleted? ↔
    ∃ visit ∈ visits, ∃ bucket, bucket.spec.name = name ∧
      ⟨.change .deleteBucket bucket, .ok ()⟩ ∈ visit.trace := by
  rw [deleted_duesOf]
  simp only [List.mem_map, List.cons.injEq, and_true, exists_eq_right, List.mem_flatMap,
    Visit.deleted, List.mem_filterMap, deleted?_eq_some_iff]
  constructor
  · rintro ⟨visit, hvisit, e, he, bucket, hname, rfl⟩
    exact ⟨visit, hvisit, bucket, hname, he⟩
  · rintro ⟨visit, hvisit, bucket, hname, he⟩
    exact ⟨visit, hvisit, _, he, bucket, hname, rfl⟩

/-- A registry that reflects what is due accounts for it. -/
lemma Accounted.of_reflects (h : r.Reflects (duesOf visits)) (hcumulative : r.IsCumulative) :
    Accounted visits r where
  succeeded := by
    rw [h.reconciliations]
    exact (count_ended true).trans (by simp)
  failed := by
    rw [h.reconciliations]
    exact (count_ended false).trans (by simp)
  timed labels := by rw [h.reconcileDurations, h.reconciliations]
  errors reason := by rw [h.errors, count_failed]
  allErrors := by
    rw [h.allErrors, length_failed, h.reconciliations]
    exact (count_ended false).symm
  complete visit _ := visit.map_operation_calls
  calls provider operation succeeded := by rw [h.providerCalls, count_called]
  allCalls provider operation := by
    rw [← count_add_count, ← count_called, ← count_called, h.providerCalls, h.providerCalls]
    rfl
  timedCalls provider operation := by rw [h.providerDurations, count_asked]
  deletions name := by rw [h.deletions, mem_deleted]
  cumulative := hcumulative

/-- Whatever invocations have returned, with whatever outcomes and whatever their calls were
answered, and in whatever order their events came: the registry accounts for them. -/
theorem metrics_account_for_calls (visits : List Visit) {events : List Event}
    (h : events.Perm (visits.flatMap Visit.events)) : Accounted visits (Registry.after events) := by
  have hdues : (events.map Event.untimed).Perm (duesOf visits) :=
    (h.map Event.untimed).trans (perm_duesOf visits)
  exact .of_reflects ((Registry.reflects_after events).of_perm hdues)
    (Registry.isCumulative_after events)

end Runs

/-- An invocation that deletes a bucket and its role. -/
def releasing : Visit where
  namespaceName := "monitoring"
  name := "logs"
  trace := (⟨.clock, (0 : Nat)⟩ :: (releaseTrace ++ [⟨.clock, (0 : Nat)⟩])) ++
    [⟨.record (.reconciled 0), ()⟩]
  outcome := .ok .released
  returned := yields_invoke_iff.2 ⟨0, releaseTrace, 0, after_releaseTrace, rfl⟩

/-- An invocation that fails to configure a bucket. -/
def failing : Visit := ⟨"monitoring", "logs", failingTrace, .error outage, yields_failingTrace⟩

/-- The second of two invocations records all its events before the first one. -/
theorem released_and_failed_accounted :
    (failing.events ++ releasing.events).Perm ([releasing, failing].flatMap Visit.events) ∧
      Accounted [releasing, failing] (Registry.after (failing.events ++ releasing.events)) := by
  have hperm : (failing.events ++ releasing.events).Perm
      ([releasing, failing].flatMap Visit.events) := by
    rw [List.flatMap_cons, List.flatMap_cons, List.flatMap_nil, List.append_nil]
    exact List.perm_append_comm
  exact ⟨hperm, metrics_account_for_calls [releasing, failing] hperm⟩

end BucketOperator.Reconcile
