import BucketOperator.Proofs.Program.Guarantee
import BucketOperator.Reconcile.Engine

/-!
# The phases of a reconciliation

A reconciliation as a sequence of phases, with a rule for the calls to the adapters. Such a call
stands between readings of the time and is counted; what holds around it must not depend on that.
-/

namespace BucketOperator.Reconcile

open Program (EndsBefore StepsBefore ensures_bind ensures_steps_bind)

/-- Whether a call only reads the time or counts something. -/
def Call.isNote : Call → Bool
  | .clock => true
  | .record _ => true
  | _ => false

/-! ### Phases -/

/-- The end of a release. -/
def letGo (bucket : Bucket) : Steps Outcome := do
  Steps.removeFinalizer bucket
  return .released

/-- The teardown of a bucket that exists. -/
def purge (provider : CloudProvider) (bucket : Bucket) : Steps Outcome := do
  Steps.change provider .deleteBucket bucket
  Steps.record (.bucketDeleted bucket.spec.name)
  if bucket.spec.requestedRole.isSome then do
    Steps.change provider .deleteRole bucket
    letGo bucket
  else letGo bucket

lemma release_eq (provider : CloudProvider) (bucket : Bucket) :
    release provider bucket = Steps.doesExist provider bucket >>= fun found =>
      if found && bucket.spec.reclaimPolicy == .delete then purge provider bucket
      else letGo bucket := rfl

/-- The end of a reconciliation that has put everything in place. -/
def report (bucket : Bucket) : Steps Outcome :=
  if bucket.status ≠ some bucket.readyStatus then do
    Steps.patchStatus bucket bucket.readyStatus
    return .ready
  else return .ready

/-- What follows once it is known whether the bucket exists. -/
def place (provider : CloudProvider) (bucket : Bucket) (found : Bool) : Steps Outcome := do
  Steps.change provider (if found then .updateBucket else .createBucket) bucket
  Steps.change provider .configureBucket bucket
  if bucket.spec.requestedRole.isSome then do
    Steps.change provider .configureRole bucket
    report bucket
  else report bucket

lemma converge_eq (provider : CloudProvider) (bucket : Bucket) :
    converge provider bucket = Steps.addFinalizer bucket >>= fun _ =>
      Steps.doesExist provider bucket >>= place provider bucket := rfl

/-- What follows once the record has been read. -/
def proceed (bucket : Bucket) : Steps Outcome := do
  let cluster ← Steps.resolve
  Steps.services cluster
  if bucket.isBeingDeleted then release cluster.provider bucket
  else converge cluster.provider bucket

lemma reconcile_eq (namespaceName name : String) :
    reconcile namespaceName name = Steps.load namespaceName name >>= fun
      | none => pure .gone
      | some bucket => proceed bucket := rfl

/-! ### Calls to the adapters -/

variable {σ : Type} {B : Behaviour Collaborators σ} {asks : σ → Call → Prop}

/-- What holds whatever the time is and whatever is counted. -/
def Quiet (B : Behaviour Collaborators σ) (asks : σ → Call → Prop) (A : σ → Prop) : Prop :=
  ∀ s c, A s → c.isNote = true → asks s c ∧ ∀ r s', B s c r s' → A s'

lemma Quiet.clock {A : σ → Prop} {s : σ} (h : Quiet B asks A) (hs : A s) :
    asks s .clock ∧ ∀ r s', B s .clock r s' → A s' := h s .clock hs rfl

lemma Quiet.record {A : σ → Prop} {s : σ} (h : Quiet B asks A) (hs : A s) (e : Metrics.Event) :
    asks s (.record e) ∧ ∀ r s', B s (.record e) r s' → A s' := h s (.record e) hs rfl

/-- An observed call is judged by the call alone. -/
lemma ensures_observe {α : Type} {c : Call} {outcomeOf : c.Answer → Except Failure α}
    {provider : CloudProvider} {operation : String} {ends : σ → Option (Except Failure α) → Prop}
    {A : σ → Prop} {R : c.Answer → σ → Prop} {s : σ}
    (hA : Quiet B asks A) (hc : ∀ s, A s → asks s c)
    (hB : ∀ s r s', A s → B s c r s' → R r s')
    (hR : ∀ r, Quiet B asks (R r)) (hends : ∀ r s, R r s → ends s (some (outcomeOf r)))
    (hs : A s) :
    (Steps.observe provider operation
      (.ask c fun r => .done (outcomeOf r))).run.Ensures B asks ends s := by
  obtain ⟨hask, hnext⟩ := hA.clock hs
  refine ⟨hask, ?_⟩
  intro (start : Nat) s₁ h₁
  have hs₁ : A s₁ := hnext start s₁ h₁
  refine ⟨hc s₁ hs₁, ?_⟩
  intro r s₂ h₂
  have hs₂ : R r s₂ := hB s₁ r s₂ hs₁ h₂
  obtain ⟨hask, hnext⟩ := (hR r).clock hs₂
  refine ⟨hask, ?_⟩
  intro (now : Nat) s₃ h₃
  have hs₃ : R r s₃ := hnext now s₃ h₃
  obtain ⟨hask, hnext⟩ := (hR r).record hs₃
    (.providerCalled provider.name operation (outcomeOf r).isOk (now - start))
  refine ⟨hask, ?_⟩
  intro u s₄ h₄
  exact hends r s₄ (hnext u s₄ h₄)

/-- An observed call is followed by more steps unless it fails. -/
lemma ensures_observe_bind {α β : Type} {c : Call} {outcomeOf : c.Answer → Except Failure α}
    {provider : CloudProvider} {operation : String} {f : α → Steps β}
    {ends : σ → Option (Except Failure β) → Prop} {A : σ → Prop} {R : c.Answer → σ → Prop} {s : σ}
    (hA : Quiet B asks A) (hc : ∀ s, A s → asks s c)
    (hB : ∀ s r s', A s → B s c r s' → R r s') (hR : ∀ r, Quiet B asks (R r))
    (hfail : ∀ r failure s, outcomeOf r = .error failure → R r s → ends s (some (.error failure)))
    (hf : ∀ r a s, outcomeOf r = .ok a → R r s → (f a).run.Ensures B asks ends s) (hs : A s) :
    (Steps.observe provider operation (.ask c fun r => .done (outcomeOf r)) >>=
      f).run.Ensures B asks ends s := by
  rw [ensures_steps_bind]
  refine ensures_observe hA hc hB hR ?_ hs
  intro r s hr
  cases ho : outcomeOf r with
  | error failure => exact hfail r failure s ho hr
  | ok a => exact hf r a s ho hr

/-- Any other call is followed by more steps unless it fails. -/
lemma ensures_ask_bind {α β : Type} {c : Call} {outcomeOf : c.Answer → Except Failure α}
    {f : α → Steps β} {ends : σ → Option (Except Failure β) → Prop} {s : σ} (hc : asks s c)
    (hfail : ∀ r failure s', B s c r s' → outcomeOf r = .error failure →
      ends s' (some (.error failure)))
    (hf : ∀ r a s', B s c r s' → outcomeOf r = .ok a → (f a).run.Ensures B asks ends s') :
    ((ExceptT.mk (.ask c fun r => .done (outcomeOf r)) : Steps α) >>=
      f).run.Ensures B asks ends s := by
  rw [ensures_steps_bind]
  refine ⟨hc, ?_⟩
  intro r s' h
  rw [Program.ensures_done]
  cases ho : outcomeOf r with
  | error failure => exact hfail r failure s' h ho
  | ok a => exact hf r a s' h ho

/-- An invocation is a reconciliation between readings of the time, and is counted. -/
lemma ensures_invoke {namespaceName name : String} {A : σ → Prop} {s : σ}
    {ends : σ → Option (Except Failure Outcome) → Prop}
    (hs : A s) (hA : Quiet B asks A)
    (h : ∀ s, A s → (reconcile namespaceName name).run.Ensures B asks
      (fun s o => match o with
        | some outcome => ∃ A', A' s ∧ Quiet B asks A' ∧ ∀ s, A' s → ends s (some outcome)
        | none => ends s none) s) :
    (invoke namespaceName name).Ensures B asks ends s := by
  obtain ⟨hask, hnext⟩ := hA.clock hs
  refine ⟨hask, ?_⟩
  intro (start : Nat) s₁ h₁
  rw [ensures_bind]
  refine (h s₁ (hnext start s₁ h₁)).mono (fun _ _ h => h) ?_
  rintro s₂ (_ | outcome) ho
  · exact ho
  · obtain ⟨A', hs₂, hA', hends⟩ := ho
    obtain ⟨hask, hnext⟩ := hA'.clock hs₂
    refine ⟨hask, ?_⟩
    intro (now : Nat) s₃ h₃
    have hs₃ : A' s₃ := hnext now s₃ h₃
    obtain ⟨hask, hnext⟩ := hA'.record hs₃ (eventOf (now - start) outcome)
    refine ⟨hask, ?_⟩
    intro u s₄ h₄
    exact hends s₄ (hnext u s₄ h₄)

/-! ### A record and the beginnings of its runs -/

/-- A record of a bucket with a role, finalized, marked, and to be deleted at the provider. -/
def doomed : Bucket where
  metadata :=
    { name := some "logs"
      generateName := none
      namespaceName := some "monitoring"
      finalizerList := some [Bucket.finalizer]
      deletionTimestamp := some "2025-01-01T00:00:00Z" }
  spec :=
    { name := "logs"
      expirationDays := none
      reclaimPolicy := .delete
      accessRole := some ⟨"logs-reader", [], "loki", "monitoring"⟩
      tags := [] }
  status := none

/-- The record is read, and the adapters are set up. -/
def begun (bucket : Bucket) (cluster : ClusterContext) : Trace Collaborators :=
  [⟨.load "monitoring" "logs", .ok (some bucket)⟩, ⟨.resolve, .ok cluster⟩,
    ⟨.services cluster, .ok ()⟩]

/-- An adapter answers at once, and its answer is counted. -/
def noted (provider : CloudProvider) (c : Call) (r : c.Answer) (operation : String)
    (isOk : Bool) : Trace Collaborators :=
  [⟨.clock, (0 : Nat)⟩, ⟨c, r⟩, ⟨.clock, (0 : Nat)⟩,
    ⟨.record (.providerCalled provider.name operation isOk 0), ()⟩]

end BucketOperator.Reconcile
