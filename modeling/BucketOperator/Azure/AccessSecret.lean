import BucketOperator.Kubernetes.Finalizers

/-!
# Access secrets

Workloads read the account and its key from a secret that is named after the bucket. A finalizer of
its own keeps the secret until the bucket is torn down.
-/

namespace BucketOperator.Azure.AccessSecret

open Kubernetes

/-- The finalizer of access secrets. -/
def finalizer : String := "giantswarm.io/object-storage-operator"

/-- The name under which the operator applies objects. -/
def fieldManager : String := "object-storage-operator"

/-- The labels of everything the operator generates. -/
def labels : StringMap String :=
  .ofList [
    ("giantswarm.io/managed-by", "object-storage-operator"),
    ("app.kubernetes.io/managed-by", "object-storage-operator"),
    ("app.kubernetes.io/part-of", "object-storage")]

/-- The secret with an account and its key. -/
def document (namespaceName name accountName accountKey : String) : Json :=
  .object [
    ("apiVersion", .string "v1"),
    ("data", .object [
      ("accountKey", .string (Base64.encode accountKey.toUTF8)),
      ("accountName", .string (Base64.encode accountName.toUTF8))]),
    ("kind", .string "Secret"),
    ("metadata", .object [
      ("finalizers", .strings [finalizer]),
      ("labels", .ofStringMap labels),
      ("name", .string name),
      ("namespace", .string namespaceName)]),
    ("type", .string "Opaque")]

/-- Secrets as a kind of objects. -/
def kind : Kind Secret := ⟨secrets, Secret.read, Secret.metadata⟩

/-- Create or update the secret. -/
def apply (namespaceName name accountName accountKey : String) :
    Program World (Except BucketOperator.Failure Unit) := do
  let outcome ← patch Secret.read .apply (secrets namespaceName) name ""
    ("fieldManager=" ++ fieldManager ++ "&force=true")
    (document namespaceName name accountName accountKey)
  return asControlPlane (outcome.map fun _ => ())

/-- Remove the secret, which may be absent. -/
def remove (patience : Nat) (namespaceName name : String) :
    Program World (Except BucketOperator.Failure Unit) := do
  match ← get? Secret.read (secrets namespaceName) name with
  | .error failure => return .error (.controlPlane failure)
  | .ok none => return .ok ()
  | .ok (some secret) =>
    match ← kind.removeFinalizer patience secret finalizer with
    | .error failure => return .error failure
    | .ok () =>
      match ← Kubernetes.delete Secret.read (secrets namespaceName) name with
      | .ok () => return .ok ()
      | .error (.status 404 _) => return .ok ()
      | .error failure => return .error (.controlPlane failure)

end BucketOperator.Azure.AccessSecret
