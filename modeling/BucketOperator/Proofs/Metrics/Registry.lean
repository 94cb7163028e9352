import BucketOperator.Proofs.Metrics.Families

/-!
# What the registry says after some events

Each family of the registry has labels for some of the events, and counts these events by them. So
no count depends on the order of the events or on how long anything took.
-/

namespace BucketOperator.Metrics

namespace Event

/-- An event without its duration. -/
def untimed : Event → Event
  | .reconciled _ => .reconciled 0
  | .reconcileFailed reason _ => .reconcileFailed reason 0
  | .providerCalled provider operation succeeded _ => .providerCalled provider operation succeeded 0
  | event => event

/-- The duration that an event tells, in seconds. -/
def seconds : Event → Binary64
  | .reconciled duration => Duration.seconds duration
  | .reconcileFailed _ duration => Duration.seconds duration
  | .providerCalled _ _ _ duration => Duration.seconds duration
  | _ => .zero

/-- How a reconciliation ended. -/
def ended? : Event → Option (List String)
  | .reconciled _ => some ["success"]
  | .reconcileFailed _ _ => some ["error"]
  | _ => none

/-- The category of a failure. -/
def failed? : Event → Option (List String)
  | .reconcileFailed reason _ => some [reason]
  | _ => none

/-- A call to a provider and how it went. -/
def called? : Event → Option (List String)
  | .providerCalled provider operation succeeded _ =>
    some [operation, provider, Registry.statusLabel succeeded]
  | _ => none

/-- A call to a provider, however it went. -/
def asked? : Event → Option (List String)
  | .providerCalled provider operation _ _ => some [operation, provider]
  | _ => none

/-- A bucket that was deleted. -/
def deleted? : Event → Option (List String)
  | .bucketDeleted bucket => some [bucket]
  | _ => none

end Event

namespace Registry

/-- What a registry says of some events. -/
structure Reflects (r : Registry) (events : List Event) : Prop where
  reconciliations : ∀ labels,
    r.reconciliations.value labels = (events.filterMap Event.ended?).count labels
  reconcileDurations : ∀ labels,
    r.reconcileDurations.samples labels = (events.filterMap Event.ended?).count labels
  errors : ∀ labels, r.errors.value labels = (events.filterMap Event.failed?).count labels
  allErrors : r.errors.total = (events.filterMap Event.failed?).length
  providerCalls : ∀ labels,
    r.providerCalls.value labels = (events.filterMap Event.called?).count labels
  providerDurations : ∀ labels,
    r.providerDurations.samples labels = (events.filterMap Event.asked?).count labels
  deletions : ∀ labels, r.deletions.value labels = 1 ↔ labels ∈ events.filterMap Event.deleted?

/-- All histograms of a registry are cumulative. -/
def IsCumulative (r : Registry) : Prop :=
  (∀ s ∈ r.reconcileDurations, s.2.IsCumulative reconcileBounds) ∧
    ∀ s ∈ r.providerDurations, s.2.IsCumulative providerBounds

/-- The registry after some events. -/
def after (events : List Event) : Registry := events.foldl record empty

section Families

variable {events events' : List Event}

/-- A family that goes by a label has been changed by the events with that label. -/
lemma field_after {α : Type} (field : Registry → Family α) {about? : Event → Option (List String)}
    {fresh : α} {change : Event → α → α}
    (h : ∀ r e, field (r.record e) = (field r).after about? fresh change e)
    (events : List Event) :
    field (after events) = events.foldl (Family.after about? fresh change) (field empty) :=
  (List.foldl_hom field fun r e => (h r e).symm).symm

lemma reconcileDurations_after (events : List Event) : (after events).reconcileDurations =
    Family.timed Event.ended? reconcileBounds Event.seconds events :=
  field_after Registry.reconcileDurations (fun _ e => by cases e <;> rfl) events

lemma providerDurations_after (events : List Event) : (after events).providerDurations =
    Family.timed Event.asked? providerBounds Event.seconds events :=
  field_after Registry.providerDurations (fun _ e => by cases e <;> rfl) events

lemma errors_after (events : List Event) : (after events).errors =
    events.foldl (Family.after Event.failed? 0 fun _ => (· + 1)) [] :=
  field_after Registry.errors (fun _ e => by cases e <;> rfl) events

lemma reconciliations_after (events : List Event) : (after events).reconciliations =
    events.foldl (Family.after Event.ended? 0 fun _ => (· + 1)) [] :=
  field_after Registry.reconciliations (fun _ e => by cases e <;> rfl) events

lemma providerCalls_after (events : List Event) : (after events).providerCalls =
    events.foldl (Family.after Event.called? 0 fun _ => (· + 1)) [] :=
  field_after Registry.providerCalls (fun _ e => by cases e <;> rfl) events

lemma deletions_after (events : List Event) : (after events).deletions =
    events.foldl (Family.after Event.deleted? 0 fun _ _ => 1) [] :=
  field_after Registry.deletions (fun _ e => by cases e <;> rfl) events

/-- Every event is reflected, once. -/
theorem reflects_after (events : List Event) : (after events).Reflects events where
  reconciliations labels := by rw [reconciliations_after, Family.value_counted]
  reconcileDurations labels := by rw [reconcileDurations_after, Family.samples_timed]
  errors labels := by rw [errors_after, Family.value_counted]
  allErrors := by rw [errors_after, Family.total_counted]
  providerCalls labels := by rw [providerCalls_after, Family.value_counted]
  providerDurations labels := by rw [providerDurations_after, Family.samples_timed]
  deletions labels := by rw [deletions_after, Family.value_set]

theorem isCumulative_after (events : List Event) : (after events).IsCumulative := by
  constructor
  · rw [reconcileDurations_after]
    exact Family.isCumulative_timed events
  · rw [providerDurations_after]
    exact Family.isCumulative_timed events

/-- Events have the same labels in another order and without durations. -/
lemma perm_filterMap (label? : Event → Option (List String))
    (hlabel : ∀ e, label? e.untimed = label? e) (h : (events.map Event.untimed).Perm events') :
    (events.filterMap label?).Perm (events'.filterMap label?) := by
  have huntimed : (events.map Event.untimed).filterMap label? = events.filterMap label? := by
    rw [List.filterMap_map]
    exact List.filterMap_congr fun e _ => hlabel e
  rw [← huntimed]
  exact h.filterMap label?

/-- A registry says the same of events in another order and without durations. -/
lemma Reflects.of_perm {r : Registry} (h : r.Reflects events)
    (hp : (events.map Event.untimed).Perm events') : r.Reflects events' := by
  have hended := perm_filterMap Event.ended? (fun e => by cases e <;> rfl) hp
  have hfailed := perm_filterMap Event.failed? (fun e => by cases e <;> rfl) hp
  have hcalled := perm_filterMap Event.called? (fun e => by cases e <;> rfl) hp
  have hasked := perm_filterMap Event.asked? (fun e => by cases e <;> rfl) hp
  have hdeleted := perm_filterMap Event.deleted? (fun e => by cases e <;> rfl) hp
  constructor
  · exact fun labels => (h.reconciliations labels).trans (hended.count_eq labels)
  · exact fun labels => (h.reconcileDurations labels).trans (hended.count_eq labels)
  · exact fun labels => (h.errors labels).trans (hfailed.count_eq labels)
  · exact h.allErrors.trans hfailed.length_eq
  · exact fun labels => (h.providerCalls labels).trans (hcalled.count_eq labels)
  · exact fun labels => (h.providerDurations labels).trans (hasked.count_eq labels)
  · exact fun labels => (h.deletions labels).trans hdeleted.mem_iff

end Families

end Registry

end BucketOperator.Metrics
