import BucketOperator.Kubernetes.Finalizers
import BucketOperator.Metrics.Registry
import BucketOperator.Reconcile.Engine

/-!
# Simulated collaborators

Collaborators of a reconciliation that keep one record and one bucket in memory. Every call but
those for time and metrics is an event with a name, and events can be made to fail.
-/

namespace BucketOperator.Simulation.Collaborators

open Reconcile

structure State where
  cluster : ClusterContext
  record : Option Bucket
  /-- Whether the provider has the bucket. -/
  doesExist : Bool
  /-- The names of the events that fail. -/
  failing : List String
  /-- The events so far, the last first. -/
  events : List String
  registry : Metrics.Registry

/-- How an event fails that was made to. -/
def injected (event : String) : Failure := .provider event "injected" (.text "failure")

/-- Log an event, and do it unless it was made to fail. -/
def event {α : Type} (name : String) (s : State) (act : State → α × State) :
    Except Failure α × State :=
  let s := { s with events := name :: s.events }
  if s.failing.contains name then (.error (injected name), s)
  else
    let (a, s) := act s
    (.ok a, s)

/-- The record at a place, if it is there. -/
def recordAt (namespaceName name : String) (s : State) : Option Bucket :=
  s.record.filter fun bucket =>
    bucket.metadata.namespaceName.getD "" == namespaceName &&
      bucket.metadata.name.getD "" == name

/-- The record with another finalizer list. -/
def withFinalizers (bucket : Bucket) (finalizers : List String) : Bucket :=
  { bucket with metadata.finalizerList := some finalizers }

/-- Put the bucket finalizer on the record. -/
def finalize (s : State) : State :=
  { s with
    record := s.record.map fun bucket =>
      match Kubernetes.withFinalizer? bucket.metadata.finalizers Bucket.finalizer with
      | some finalizers => withFinalizers bucket finalizers
      | none => bucket }

/-- Take the bucket finalizer off the record, and the record away once nothing keeps it. -/
def unfinalize (s : State) : State :=
  { s with
    record := s.record.bind fun bucket =>
      let left := bucket.metadata.finalizers.filter (· != Bucket.finalizer)
      if left.isEmpty && bucket.isBeingDeleted then none
      else if bucket.metadata.finalizerList.isNone then some bucket
      else some (withFinalizers bucket left) }

/-- Make a change at the provider. -/
def apply (c : Change) (s : State) : State :=
  match c with
  | .createBucket => { s with doesExist := true }
  | .deleteBucket => { s with doesExist := false }
  | _ => s

/-- Answer a call. -/
def serve : (c : Call) → State → c.Answer × State
  | .load namespaceName name, s => event "get" s fun s => (recordAt namespaceName name s, s)
  | .resolve, s => event "resolve" s fun s => (s.cluster, s)
  | .services cluster, s => event ("services " ++ cluster.name) s fun s => ((), s)
  | .addFinalizer _, s => event "add_finalizer" s fun s => ((), finalize s)
  | .removeFinalizer _, s => event "remove_finalizer" s fun s => ((), unfinalize s)
  | .patchStatus _ status, s =>
    event "patch_status" s fun s =>
      ((), { s with record := s.record.map fun bucket => { bucket with status := some status } })
  | .doesExist _, s => event "exists_bucket" s fun s => (s.doesExist, s)
  | .change c _, s => event c.name s fun s => ((), apply c s)
  | .clock, s => ((0 : Nat), s)
  | .record e, s => ((), { s with registry := s.registry.record e })

/-- Run a program with these collaborators; a run that was cut has no result. -/
def run {α : Type} (program : Program Reconcile.Collaborators α) (s : State) : Option α × State :=
  program.run serve s

end BucketOperator.Simulation.Collaborators
