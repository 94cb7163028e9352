import BucketOperator.Bucket.Document
import BucketOperator.Kubernetes.Finalizers

/-!
# The store of bucket records

Reading records from the control plane and writing their finalizers and status back.
-/

namespace BucketOperator.Bucket

open Kubernetes

/-- Bucket records as a kind of objects. -/
def kind : Kind Bucket := ⟨buckets, Bucket.read, Bucket.metadata⟩

variable (patience : Nat)

/-- Load a record, if it exists. -/
def load (namespaceName name : String) : Program World (Except Failure (Option Bucket)) :=
  persist patience (get? Bucket.read (buckets namespaceName) name)

/-- Put the bucket finalizer on a record. -/
def addFinalizer (bucket : Bucket) : Program World (Except Failure Unit) :=
  kind.addFinalizer patience bucket finalizer

/-- Take the bucket finalizer off a record. -/
def removeFinalizer (bucket : Bucket) : Program World (Except Failure Unit) :=
  kind.removeFinalizer patience bucket finalizer

/-- The merge patch that writes a status. -/
def statusPatch (status : BucketStatus) : Json := .object [("status", status.toJson)]

/-- Write the status of a record. -/
def patchStatus (bucket : Bucket) (status : BucketStatus) :
    Program World (Except Failure Unit) := do
  let outcome ← persist patience <|
    patch Bucket.read .merge (kind.collectionOf bucket) bucket.metadata.anyName "/status" ""
      (statusPatch status)
  return outcome.map fun _ => ()

end BucketOperator.Bucket
