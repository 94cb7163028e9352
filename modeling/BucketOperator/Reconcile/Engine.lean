import BucketOperator.Bucket.Record
import BucketOperator.Cluster.Context
import BucketOperator.Metrics.Event
import BucketOperator.Program

/-!
# Reconciliation

One reconciliation of a record decides everything anew from the record and from whether the bucket
exists at the provider. The finalizer is persisted before anything changes at the provider, and
the status is written after every step has succeeded. A record that is being deleted is released
by removing the finalizer; before that the bucket and its role are deleted if the record says so.
-/

namespace BucketOperator.Reconcile

/-- The operations of the adapters that change something at the provider. -/
inductive Change where
  | createBucket
  | updateBucket
  | deleteBucket
  | configureBucket
  | configureRole
  | deleteRole
  deriving DecidableEq, Repr

def Change.name : Change → String
  | .createBucket => "create_bucket"
  | .updateBucket => "update_bucket"
  | .deleteBucket => "delete_bucket"
  | .configureBucket => "configure_bucket"
  | .configureRole => "configure_role"
  | .deleteRole => "delete_role"

/-- What a reconciliation asks for: records, the cluster, the adapters, time and metrics. -/
inductive Call where
  | load (namespaceName name : String)
  | resolve
  | services (cluster : ClusterContext)
  | addFinalizer (bucket : Bucket)
  | removeFinalizer (bucket : Bucket)
  | patchStatus (bucket : Bucket) (status : BucketStatus)
  | doesExist (bucket : Bucket)
  | change (change : Change) (bucket : Bucket)
  | clock
  | record (event : Metrics.Event)

/-- What a call answers. -/
def Call.Answer : Call → Type
  | .load .. => Except Failure (Option Bucket)
  | .resolve => Except Failure ClusterContext
  | .services _ => Except Failure Unit
  | .addFinalizer _ => Except Failure Unit
  | .removeFinalizer _ => Except Failure Unit
  | .patchStatus .. => Except Failure Unit
  | .doesExist _ => Except Failure Bool
  | .change .. => Except Failure Unit
  | .clock => Nat
  | .record _ => Unit

/-- The collaborators of a reconciliation. -/
abbrev Collaborators : Interface := ⟨Call, Call.Answer⟩

/-- Steps of a reconciliation; the first failure ends it. -/
abbrev Steps := ExceptT Failure (Program Collaborators)

namespace Steps

variable {α : Type}

def load (namespaceName name : String) : Steps (Option Bucket) :=
  ExceptT.mk (.ask (.load namespaceName name) .done)

def resolve : Steps ClusterContext := ExceptT.mk (.ask .resolve .done)

def services (cluster : ClusterContext) : Steps Unit := ExceptT.mk (.ask (.services cluster) .done)

def addFinalizer (bucket : Bucket) : Steps Unit := ExceptT.mk (.ask (.addFinalizer bucket) .done)

def removeFinalizer (bucket : Bucket) : Steps Unit :=
  ExceptT.mk (.ask (.removeFinalizer bucket) .done)

def patchStatus (bucket : Bucket) (status : BucketStatus) : Steps Unit :=
  ExceptT.mk (.ask (.patchStatus bucket status) .done)

def record (event : Metrics.Event) : Steps Unit :=
  ExceptT.mk (.ask (.record event) fun _ => .done (.ok ()))

/-- Ask an adapter and record how it went and how long it took. -/
def observe (provider : CloudProvider) (operation : String)
    (call : Program Collaborators (Except Failure α)) : Steps α :=
  ExceptT.mk <|
    .ask .clock fun (start : Nat) =>
      call.bind fun outcome =>
        .ask .clock fun (now : Nat) =>
          .ask (.record (.providerCalled provider.name operation outcome.isOk (now - start)))
            fun _ => .done outcome

/-- Whether the bucket exists at the provider. -/
def doesExist (provider : CloudProvider) (bucket : Bucket) : Steps Bool :=
  observe provider "exists_bucket" (.ask (.doesExist bucket) .done)

/-- Make a change at the provider. -/
def change (provider : CloudProvider) (c : Change) (bucket : Bucket) : Steps Unit :=
  observe provider c.name (.ask (.change c bucket) .done)

end Steps

/-- What a reconciliation did. -/
inductive Outcome where
  /-- There is no such record any more. -/
  | gone
  /-- The record is being deleted, and its finalizer has been removed. -/
  | released
  /-- The bucket is in place. -/
  | ready
  deriving DecidableEq, Repr

/-- Delete the bucket, if the record says so, and remove the finalizer. -/
def release (provider : CloudProvider) (bucket : Bucket) : Steps Outcome := do
  let found ← Steps.doesExist provider bucket
  if found && bucket.spec.reclaimPolicy == .delete then
    Steps.change provider .deleteBucket bucket
    Steps.record (.bucketDeleted bucket.spec.name)
    if bucket.spec.requestedRole.isSome then
      Steps.change provider .deleteRole bucket
  Steps.removeFinalizer bucket
  return .released

/-- Put the bucket and its role in place, and say so in the status. -/
def converge (provider : CloudProvider) (bucket : Bucket) : Steps Outcome := do
  Steps.addFinalizer bucket
  let found ← Steps.doesExist provider bucket
  Steps.change provider (if found then .updateBucket else .createBucket) bucket
  Steps.change provider .configureBucket bucket
  if bucket.spec.requestedRole.isSome then
    Steps.change provider .configureRole bucket
  if bucket.status ≠ some bucket.readyStatus then
    Steps.patchStatus bucket bucket.readyStatus
  return .ready

/-- One reconciliation of a record. -/
def reconcile (namespaceName name : String) : Steps Outcome := do
  match ← Steps.load namespaceName name with
  | none => return .gone
  | some bucket =>
    let cluster ← Steps.resolve
    Steps.services cluster
    if bucket.isBeingDeleted then release cluster.provider bucket
    else converge cluster.provider bucket

/-! ### Invocations -/

/-- What is done about a record after a reconciliation. -/
inductive Action where
  | awaitChange
  | requeue (seconds : Nat)
  deriving DecidableEq, Repr

/-- A bucket in place is looked at again after five minutes, and a failure that may pass after half
a minute. -/
def actionAfter : Except Failure Outcome → Action
  | .ok .ready => .requeue 300
  | .ok .released => .awaitChange
  | .ok .gone => .awaitChange
  | .error failure => if failure.isTransient then .requeue 30 else .awaitChange

/-- The event of a reconciliation that took some time. -/
def eventOf (duration : Nat) : Except Failure Outcome → Metrics.Event
  | .ok _ => .reconciled duration
  | .error failure => .reconcileFailed failure.reason duration

/-- Reconcile a record and record how it went and how long it took. -/
def invoke (namespaceName name : String) : Program Collaborators (Except Failure Outcome) :=
  .ask .clock fun (start : Nat) =>
    (reconcile namespaceName name).run.bind fun outcome =>
      .ask .clock fun (now : Nat) =>
        .ask (.record (eventOf (now - start) outcome)) fun _ => .done outcome

end BucketOperator.Reconcile
