import BucketOperator.Proofs.Reconcile.Phases

/-!
# The order of calls in a reconciliation

What must have been answered before a reconciliation makes a call, whatever the answers are: a
record is finalized before anything is done at the provider, the status comes last, and the
finalizer is removed only after the teardown that the record asks for. The first failure ends the
calls and is the result.
-/

namespace BucketOperator.Reconcile

open Program (recorded StepsBefore ensures_steps_bind)

/-- The failure in an outcome. -/
def failureIn? {α : Type} : Except Failure α → Option Failure
  | .ok _ => none
  | .error failure => some failure

/-- The failure that an answer reports. -/
def Call.failure? : (c : Call) → c.Answer → Option Failure
  | .load .., r => failureIn? r
  | .resolve, r => failureIn? r
  | .services _, r => failureIn? r
  | .addFinalizer _, r => failureIn? r
  | .removeFinalizer _, r => failureIn? r
  | .patchStatus .., r => failureIn? r
  | .doesExist _, r => failureIn? r
  | .change .., r => failureIn? r
  | .clock, _ => none
  | .record _, _ => none

/-! ### What has happened -/

section History

variable (namespaceName name : String) (t : Trace Collaborators) (bucket : Bucket)

/-- No answer so far has reported a failure. -/
def Unfailed : Prop := ∀ e ∈ t, e.call.failure? e.answer = none

/-- The record has been read, and the adapters of the resolved cluster have been set up. -/
structure Begun : Prop where
  loaded : ⟨.load namespaceName name, .ok (some bucket)⟩ ∈ t
  served : ∃ cluster, ⟨.resolve, .ok cluster⟩ ∈ t ∧ ⟨.services cluster, .ok ()⟩ ∈ t

/-- A record that is not being deleted has been read and finalized. -/
structure Finalized : Prop extends Begun namespaceName name t bucket where
  alive : bucket.isBeingDeleted = false
  finalized : ⟨.addFinalizer bucket, .ok ()⟩ ∈ t

/-- Whether the bucket exists has been answered, and accordingly it has been created or updated. -/
structure InPlace : Prop extends Finalized namespaceName name t bucket where
  placed : ∃ found, ⟨.doesExist bucket, .ok found⟩ ∈ t ∧
    ⟨.change (if found then .updateBucket else .createBucket) bucket, .ok ()⟩ ∈ t

/-- The bucket is in place and configured. -/
structure Configured : Prop extends InPlace namespaceName name t bucket where
  configured : ⟨.change .configureBucket bucket, .ok ()⟩ ∈ t

/-- The bucket is configured, and so is its role if one is requested. -/
structure Complete : Prop extends Configured namespaceName name t bucket where
  role : bucket.spec.requestedRole.isSome → ⟨.change .configureRole bucket, .ok ()⟩ ∈ t

/-- A record that is being deleted has been read. -/
structure Releasing : Prop extends Begun namespaceName name t bucket where
  marked : bucket.isBeingDeleted = true

/-- The bucket of a record that is being deleted exists and is to be deleted. -/
structure Purging : Prop extends Releasing namespaceName name t bucket where
  found : ⟨.doesExist bucket, .ok true⟩ ∈ t
  policy : bucket.spec.reclaimPolicy = .delete

/-- Whether the bucket exists has been answered, and a bucket that is to be deleted has been, with
its role if one is requested. -/
structure TornDown : Prop extends Releasing namespaceName name t bucket where
  done : ∃ found, ⟨.doesExist bucket, .ok found⟩ ∈ t ∧
    (found = true → bucket.spec.reclaimPolicy = .delete →
      ⟨.change .deleteBucket bucket, .ok ()⟩ ∈ t ∧
        (bucket.spec.requestedRole.isSome → ⟨.change .deleteRole bucket, .ok ()⟩ ∈ t))

/-- What must have happened before a call. -/
def Grounds : Call → Prop
  | .load n m => n = namespaceName ∧ m = name
  | .resolve => ∃ bucket, ⟨.load namespaceName name, .ok (some bucket)⟩ ∈ t
  | .services cluster => ⟨.resolve, .ok cluster⟩ ∈ t
  | .addFinalizer bucket => Begun namespaceName name t bucket ∧ bucket.isBeingDeleted = false
  | .doesExist bucket =>
    Finalized namespaceName name t bucket ∨ Releasing namespaceName name t bucket
  | .change .createBucket bucket =>
    Finalized namespaceName name t bucket ∧ ⟨.doesExist bucket, .ok false⟩ ∈ t
  | .change .updateBucket bucket =>
    Finalized namespaceName name t bucket ∧ ⟨.doesExist bucket, .ok true⟩ ∈ t
  | .change .configureBucket bucket => InPlace namespaceName name t bucket
  | .change .configureRole bucket =>
    Configured namespaceName name t bucket ∧ bucket.spec.requestedRole.isSome
  | .patchStatus bucket status =>
    Complete namespaceName name t bucket ∧ status = bucket.readyStatus ∧
      bucket.status ≠ some bucket.readyStatus
  | .change .deleteBucket bucket => Purging namespaceName name t bucket
  | .change .deleteRole bucket =>
    Purging namespaceName name t bucket ∧ bucket.spec.requestedRole.isSome ∧
      ⟨.change .deleteBucket bucket, .ok ()⟩ ∈ t
  | .removeFinalizer bucket => TornDown namespaceName name t bucket
  | .clock => True
  | .record _ => True

/-- A call is made on its grounds, and never after a failure. -/
def Licensed (c : Call) : Prop :=
  (c.isNote = false → Unfailed t) ∧ Grounds namespaceName name t c

/-- What has happened by the end: a failure is one that was answered, and a success means that
nothing failed and everything was done. -/
def Concluded : Except Failure Outcome → Prop
  | .error failure => ∃ e ∈ t, e.call.failure? e.answer = some failure
  | .ok .gone => Unfailed t ∧ ⟨.load namespaceName name, .ok none⟩ ∈ t
  | .ok .released =>
    Unfailed t ∧ ∃ bucket, TornDown namespaceName name t bucket ∧
      ⟨.removeFinalizer bucket, .ok ()⟩ ∈ t
  | .ok .ready =>
    Unfailed t ∧ ∃ bucket, Complete namespaceName name t bucket ∧
      (bucket.status = some bucket.readyStatus ∨
        ⟨.patchStatus bucket bucket.readyStatus, .ok ()⟩ ∈ t)

end History

/-! ### What has happened stays so -/

section Extension

variable {namespaceName name : String} {t t' : Trace Collaborators} {bucket : Bucket}

lemma Begun.mono (h : Begun namespaceName name t bucket) (ht : t ⊆ t') :
    Begun namespaceName name t' bucket := by
  obtain ⟨hload, cluster, hresolve, hserve⟩ := h
  exact ⟨ht hload, cluster, ht hresolve, ht hserve⟩

lemma Finalized.mono (h : Finalized namespaceName name t bucket) (ht : t ⊆ t') :
    Finalized namespaceName name t' bucket :=
  ⟨h.toBegun.mono ht, h.alive, ht h.finalized⟩

lemma InPlace.mono (h : InPlace namespaceName name t bucket) (ht : t ⊆ t') :
    InPlace namespaceName name t' bucket := by
  obtain ⟨found, hfound, hchange⟩ := h.placed
  exact ⟨h.toFinalized.mono ht, found, ht hfound, ht hchange⟩

lemma Configured.mono (h : Configured namespaceName name t bucket) (ht : t ⊆ t') :
    Configured namespaceName name t' bucket :=
  ⟨h.toInPlace.mono ht, ht h.configured⟩

lemma Complete.mono (h : Complete namespaceName name t bucket) (ht : t ⊆ t') :
    Complete namespaceName name t' bucket :=
  ⟨h.toConfigured.mono ht, fun role => ht (h.role role)⟩

lemma Releasing.mono (h : Releasing namespaceName name t bucket) (ht : t ⊆ t') :
    Releasing namespaceName name t' bucket :=
  ⟨h.toBegun.mono ht, h.marked⟩

lemma Purging.mono (h : Purging namespaceName name t bucket) (ht : t ⊆ t') :
    Purging namespaceName name t' bucket :=
  ⟨h.toReleasing.mono ht, ht h.found, h.policy⟩

lemma TornDown.mono (h : TornDown namespaceName name t bucket) (ht : t ⊆ t') :
    TornDown namespaceName name t' bucket := by
  obtain ⟨found, hfound, hdone⟩ := h.done
  refine ⟨h.toReleasing.mono ht, found, ht hfound, ?_⟩
  intro hf hp
  obtain ⟨hdelete, hrole⟩ := hdone hf hp
  exact ⟨ht hdelete, fun role => ht (hrole role)⟩

/-- Grounds are not lost while a run goes on. -/
lemma Grounds.mono {c : Call} (h : Grounds namespaceName name t c) (ht : t ⊆ t') :
    Grounds namespaceName name t' c := by
  cases c with
  | load n m => exact h
  | resolve =>
    obtain ⟨bucket, hload⟩ := h
    exact ⟨bucket, ht hload⟩
  | services cluster => exact ht h
  | addFinalizer bucket => exact ⟨h.1.mono ht, h.2⟩
  | removeFinalizer bucket => exact TornDown.mono h ht
  | patchStatus bucket status => exact ⟨h.1.mono ht, h.2⟩
  | doesExist bucket => exact h.imp (fun h => h.mono ht) fun h => h.mono ht
  | change c bucket =>
    cases c with
    | createBucket => exact ⟨h.1.mono ht, ht h.2⟩
    | updateBucket => exact ⟨h.1.mono ht, ht h.2⟩
    | deleteBucket => exact Purging.mono h ht
    | configureBucket => exact InPlace.mono h ht
    | configureRole => exact ⟨h.1.mono ht, h.2⟩
    | deleteRole => exact ⟨h.1.mono ht, h.2.1, ht h.2.2⟩
  | clock => trivial
  | record e => trivial

lemma unfailed_append {e : Exchange Collaborators} :
    Unfailed (t ++ [e]) ↔ Unfailed t ∧ e.call.failure? e.answer = none := by
  simp only [Unfailed, List.mem_append, List.mem_singleton, or_imp, forall_and, forall_eq]

end Extension

/-! ### What each phase guarantees -/

section Phases

variable {namespaceName name : String} {t : Trace Collaborators} {bucket : Bucket}
  {provider : CloudProvider}

/-- A run that has ended has concluded, and is not cut. -/
def Ends (namespaceName name : String) (t : Trace Collaborators)
    (o : Option (Except Failure Outcome)) : Prop :=
  ∃ outcome, o = some outcome ∧ Concluded namespaceName name t outcome

/-- All calls of some steps are licensed after what has happened, and they end as they should. -/
abbrev Lawful (namespaceName name : String) (steps : Steps Outcome)
    (t : Trace Collaborators) : Prop :=
  steps.run.Ensures (recorded Collaborators) (Licensed namespaceName name)
    (Ends namespaceName name) t

/-- The first failure ends the steps. -/
lemma ends_failed {c : Call} {r : c.Answer} {failure : Failure} (h : ⟨c, r⟩ ∈ t)
    (hr : c.failure? r = some failure) : Ends namespaceName name t (some (.error failure)) :=
  ⟨_, rfl, ⟨c, r⟩, h, hr⟩

/-- What has happened before and with a call that does not depend on notes. -/
lemma quiet_extension {P : Trace Collaborators → Prop}
    (hP : ∀ t c r, P t → c.isNote = true → P (t ++ [⟨c, r⟩])) :
    Quiet (recorded Collaborators) (Licensed namespaceName name) P := by
  intro t c ht hc
  refine ⟨⟨?_, ?_⟩, ?_⟩
  · intro h
    rw [hc] at h
    cases h
  · cases c with
    | clock => trivial
    | record e => trivial
    | _ => cases hc
  · rintro r t' rfl
    exact hP t c r ht hc

lemma failure?_of_isNote {c : Call} (h : c.isNote = true) (r : c.Answer) :
    c.failure? r = none := by
  cases c with
  | clock => rfl
  | record e => rfl
  | _ => cases h

/-- An observed call that has its grounds is followed by more steps unless it fails. -/
lemma lawful_observe_bind {α : Type} {c : Call} {outcomeOf : c.Answer → Except Failure α}
    {operation : String} {f : α → Steps Outcome}
    (hfailure : ∀ r, c.failure? r = failureIn? (outcomeOf r))
    (hu : Unfailed t) (hc : Grounds namespaceName name t c)
    (hf : ∀ r a t', outcomeOf r = .ok a → t ⊆ t' → ⟨c, r⟩ ∈ t' → Unfailed t' →
      Lawful namespaceName name (f a) t') :
    Lawful namespaceName name
      (Steps.observe provider operation (.ask c fun r => .done (outcomeOf r)) >>= f) t := by
  rw [Lawful, ensures_steps_bind]
  refine ensures_observe (A := fun t' => t ⊆ t' ∧ Unfailed t')
    (R := fun r t' => t ⊆ t' ∧ ⟨c, r⟩ ∈ t' ∧ (c.failure? r = none → Unfailed t'))
    ?_ ?_ ?_ ?_ ?_ ⟨List.Subset.refl t, hu⟩
  · apply quiet_extension
    rintro t' d r ⟨ht, hu⟩ hd
    exact ⟨fun e he => List.mem_append_left _ (ht he),
      unfailed_append.2 ⟨hu, failure?_of_isNote hd r⟩⟩
  · rintro t' ⟨ht, hu⟩
    exact ⟨fun _ => hu, hc.mono ht⟩
  · rintro t' r _ ⟨ht, hu⟩ rfl
    refine ⟨fun e he => List.mem_append_left _ (ht he), by simp, ?_⟩
    intro hr
    exact unfailed_append.2 ⟨hu, hr⟩
  · intro r
    apply quiet_extension
    rintro t' d r' ⟨ht, hr, hu⟩ hd
    refine ⟨fun e he => List.mem_append_left _ (ht he), List.mem_append_left _ hr, ?_⟩
    intro h
    exact unfailed_append.2 ⟨hu h, failure?_of_isNote hd r'⟩
  · rintro r t' ⟨ht, hr, hu⟩
    cases ho : outcomeOf r with
    | error failure => exact ends_failed hr (by rw [hfailure, ho]; rfl)
    | ok a => exact hf r a t' ho ht hr (hu (by rw [hfailure, ho]; rfl))

/-- Any other call that has its grounds is followed by more steps unless it fails. -/
lemma lawful_ask_bind {α : Type} {c : Call} {outcomeOf : c.Answer → Except Failure α}
    {f : α → Steps Outcome} (hfailure : ∀ r, c.failure? r = failureIn? (outcomeOf r))
    (hu : Unfailed t) (hc : Grounds namespaceName name t c)
    (hf : ∀ r a t', outcomeOf r = .ok a → t ⊆ t' → ⟨c, r⟩ ∈ t' → Unfailed t' →
      Lawful namespaceName name (f a) t') :
    Lawful namespaceName name
      ((ExceptT.mk (.ask c fun r => .done (outcomeOf r)) : Steps α) >>= f) t := by
  rw [Lawful, ensures_steps_bind]
  refine ⟨⟨fun _ => hu, hc⟩, ?_⟩
  rintro r _ rfl
  have hmem : ⟨c, r⟩ ∈ t ++ [⟨c, r⟩] := by simp
  cases ho : outcomeOf r with
  | error failure =>
    rw [Program.ensures_done, ho]
    exact ends_failed hmem (by rw [hfailure, ho]; rfl)
  | ok a =>
    rw [Program.ensures_done, ho]
    exact hf r a _ ho (List.subset_append_left t _) hmem
      (unfailed_append.2 ⟨hu, by rw [hfailure, ho]; rfl⟩)

lemma lawful_record_bind {event : Metrics.Event} {f : Unit → Steps Outcome} (hu : Unfailed t)
    (hf : ∀ t', t ⊆ t' → Unfailed t' → Lawful namespaceName name (f ()) t') :
    Lawful namespaceName name (Steps.record event >>= f) t := by
  rw [Lawful, ensures_steps_bind]
  refine ⟨⟨fun _ => hu, trivial⟩, ?_⟩
  rintro r _ rfl
  exact hf _ (List.subset_append_left t _) (unfailed_append.2 ⟨hu, rfl⟩)

lemma lawful_letGo (hu : Unfailed t) (h : TornDown namespaceName name t bucket) :
    Lawful namespaceName name (letGo bucket) t := by
  refine lawful_ask_bind (fun _ => rfl) hu h ?_
  rintro _ ⟨⟩ t' rfl ht hremoved hu
  exact ⟨_, rfl, hu, bucket, h.mono ht, hremoved⟩

lemma lawful_purge (hu : Unfailed t) (h : Purging namespaceName name t bucket) :
    Lawful namespaceName name (purge provider bucket) t := by
  refine lawful_observe_bind (fun _ => rfl) hu h ?_
  rintro _ ⟨⟩ t₁ rfl ht₁ hdeleted hu
  have h₁ := h.mono ht₁
  refine lawful_record_bind hu ?_
  intro t₂ ht₂ hu
  have h₂ := h₁.mono ht₂
  split
  · rename_i role
    refine lawful_observe_bind (fun _ => rfl) hu ⟨h₂, role, ht₂ hdeleted⟩ ?_
    rintro _ ⟨⟩ t₃ rfl ht₃ hrole hu
    have h₃ := h₂.mono ht₃
    exact lawful_letGo hu
      ⟨h₃.toReleasing, true, h₃.found, fun _ _ => ⟨ht₃ (ht₂ hdeleted), fun _ => hrole⟩⟩
  · rename_i role
    exact lawful_letGo hu
      ⟨h₂.toReleasing, true, h₂.found, fun _ _ => ⟨ht₂ hdeleted, fun h => absurd h role⟩⟩

lemma lawful_release (hu : Unfailed t) (h : Releasing namespaceName name t bucket) :
    Lawful namespaceName name (release provider bucket) t := by
  rw [release_eq]
  refine lawful_observe_bind (fun _ => rfl) hu (Or.inr h) ?_
  rintro _ found t₁ rfl ht₁ hfound hu
  have h₁ := h.mono ht₁
  split
  · rename_i hpurge
    simp only [Bool.and_eq_true, beq_iff_eq] at hpurge
    obtain ⟨rfl, hpolicy⟩ := hpurge
    exact lawful_purge hu ⟨h₁, hfound, hpolicy⟩
  · rename_i hkeep
    refine lawful_letGo hu ⟨h₁, found, hfound, ?_⟩
    intro hf hpolicy
    simp [hf, hpolicy] at hkeep

lemma lawful_report (hu : Unfailed t) (h : Complete namespaceName name t bucket) :
    Lawful namespaceName name (report bucket) t := by
  unfold report
  split
  · rename_i hstatus
    refine lawful_ask_bind (fun _ => rfl) hu ⟨h, rfl, hstatus⟩ ?_
    rintro _ ⟨⟩ t' rfl ht hpatched hu
    exact ⟨_, rfl, hu, bucket, h.mono ht, .inr hpatched⟩
  · rename_i hstatus
    exact ⟨_, rfl, hu, bucket, h, .inl (not_not.1 hstatus)⟩

/-- A bucket that exists is updated, and one that does not is created. -/
lemma grounds_placing {found : Bool} (h : Finalized namespaceName name t bucket)
    (hfound : ⟨.doesExist bucket, .ok found⟩ ∈ t) :
    Grounds namespaceName name t
      (.change (if found then .updateBucket else .createBucket) bucket) := by
  cases found with
  | false => exact ⟨h, hfound⟩
  | true => exact ⟨h, hfound⟩

lemma lawful_place {found : Bool} (hu : Unfailed t) (h : Finalized namespaceName name t bucket)
    (hfound : ⟨.doesExist bucket, .ok found⟩ ∈ t) :
    Lawful namespaceName name (place provider bucket found) t := by
  refine lawful_observe_bind (fun _ => rfl) hu (grounds_placing h hfound) ?_
  rintro _ ⟨⟩ t₁ rfl ht₁ hplaced hu
  have h₁ : InPlace namespaceName name t₁ bucket := ⟨h.mono ht₁, found, ht₁ hfound, hplaced⟩
  refine lawful_observe_bind (fun _ => rfl) hu h₁ ?_
  rintro _ ⟨⟩ t₂ rfl ht₂ hconfigured hu
  have h₂ : Configured namespaceName name t₂ bucket := ⟨h₁.mono ht₂, hconfigured⟩
  split
  · rename_i role
    refine lawful_observe_bind (fun _ => rfl) hu ⟨h₂, role⟩ ?_
    rintro _ ⟨⟩ t₃ rfl ht₃ hrole hu
    exact lawful_report hu ⟨h₂.mono ht₃, fun _ => hrole⟩
  · rename_i role
    exact lawful_report hu ⟨h₂, fun h => absurd h role⟩

lemma lawful_converge (hu : Unfailed t) (h : Begun namespaceName name t bucket)
    (alive : bucket.isBeingDeleted = false) :
    Lawful namespaceName name (converge provider bucket) t := by
  rw [converge_eq]
  refine lawful_ask_bind (fun _ => rfl) hu ⟨h, alive⟩ ?_
  rintro _ ⟨⟩ t₁ rfl ht₁ hfinalized hu
  have h₁ : Finalized namespaceName name t₁ bucket := ⟨h.mono ht₁, alive, hfinalized⟩
  refine lawful_observe_bind (fun _ => rfl) hu (Or.inl h₁) ?_
  rintro _ found t₂ rfl ht₂ hfound hu
  exact lawful_place hu (h₁.mono ht₂) hfound

lemma lawful_proceed (hu : Unfailed t)
    (hload : ⟨.load namespaceName name, .ok (some bucket)⟩ ∈ t) :
    Lawful namespaceName name (proceed bucket) t := by
  refine lawful_ask_bind (fun _ => rfl) hu ⟨bucket, hload⟩ ?_
  rintro _ cluster t₁ rfl ht₁ hresolved hu
  refine lawful_ask_bind (fun _ => rfl) hu hresolved ?_
  rintro _ ⟨⟩ t₂ rfl ht₂ hserved hu
  have h : Begun namespaceName name t₂ bucket := ⟨ht₂ (ht₁ hload), cluster, ht₂ hresolved, hserved⟩
  split
  · rename_i marked
    exact lawful_release hu ⟨h, marked⟩
  · rename_i alive
    exact lawful_converge hu h (Bool.not_eq_true _ ▸ alive)

lemma lawful_reconcile_from (hu : Unfailed t) :
    Lawful namespaceName name (reconcile namespaceName name) t := by
  rw [reconcile_eq]
  refine lawful_ask_bind (fun _ => rfl) hu ⟨rfl, rfl⟩ ?_
  rintro _ (_ | bucket) t rfl ht hload hu
  · exact ⟨_, rfl, hu, hload⟩
  · exact lawful_proceed hu hload

lemma lawful_reconcile : Lawful namespaceName name (reconcile namespaceName name) [] :=
  lawful_reconcile_from fun _ he => nomatch he

end Phases

/-- However its calls are answered, a reconciliation makes each of them on its grounds and none
after a failure, and its result says what has happened. -/
theorem reconcile_calls_in_order (namespaceName name : String) {t : Trace Collaborators}
    {rest : Program Collaborators (Except Failure Outcome)}
    (h : (reconcile namespaceName name).run.After t rest) :
    (∀ before c r after, t = before ++ ⟨c, r⟩ :: after →
      Licensed namespaceName name before c) ∧
    (∀ outcome, rest = .done outcome → Concluded namespaceName name t outcome) ∧
    rest ≠ .cut := by
  refine ⟨?_, ?_, ?_⟩
  · rintro before c r after rfl
    exact lawful_reconcile.asked h
  · rintro outcome rfl
    obtain ⟨_, ⟨⟩, hconcluded⟩ := lawful_reconcile.ended h
    exact hconcluded
  · rintro rfl
    obtain ⟨_, ⟨⟩, _⟩ := lawful_reconcile.ended h

/-- The calls and answers of a release that deletes a bucket and its role. -/
def releaseTrace : Trace Collaborators :=
  begun doomed default ++
    noted .aws (.doesExist doomed) (.ok true) "exists_bucket" true ++
    noted .aws (.change .deleteBucket doomed) (.ok ()) "delete_bucket" true ++
    [⟨.record (.bucketDeleted "logs"), ()⟩] ++
    noted .aws (.change .deleteRole doomed) (.ok ()) "delete_role" true ++
    [⟨.removeFinalizer doomed, .ok ()⟩]

lemma after_releaseTrace :
    (reconcile "monitoring" "logs").run.After releaseTrace (.done (.ok .released)) := by
  repeat apply Program.After.answered
  exact .here _

theorem releaseTrace_in_order :
    (reconcile "monitoring" "logs").run.After releaseTrace (.done (.ok .released)) ∧
      Concluded "monitoring" "logs" releaseTrace (.ok .released) :=
  ⟨after_releaseTrace,
    (reconcile_calls_in_order "monitoring" "logs" after_releaseTrace).2.1 _ rfl⟩

end BucketOperator.Reconcile
