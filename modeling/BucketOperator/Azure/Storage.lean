import BucketOperator.Azure.Account
import BucketOperator.Azure.Container
import BucketOperator.Azure.Lifecycle
import BucketOperator.Azure.PrivateEndpoint
import BucketOperator.Bucket.Record

/-!
# Buckets on Azure

Creating and updating a bucket put the same full state in place: the account, the container, on
private clusters the endpoint, and last the secret with the account's key.
-/

namespace BucketOperator.Azure

/-- Steps of an adapter operation. -/
abbrev Operation := ExceptT BucketOperator.Failure (Program Api)

/-- Run steps as a named operation on a bucket. -/
def named {α : Type} (bucket operation : String) (steps : Steps α) : Operation α :=
  ExceptT.mk do
    return (← steps.run).mapError fun failure => .provider bucket operation (.azure failure)

/-- Write the secret through which workloads reach a bucket. -/
def applySecret (namespaceName name accountName accountKey : String) : Operation Unit :=
  ExceptT.mk (.ask (.applySecret namespaceName name accountName accountKey) .done)

def deleteSecret (namespaceName name : String) : Operation Unit :=
  ExceptT.mk (.ask (.deleteSecret namespaceName name) .done)

/-- The namespace of a record, which it must have. -/
def namespaceOf (bucket : Bucket) : Operation String :=
  match bucket.metadata.namespaceName with
  | some n => return n
  | none => throw (.invalidBucket bucket.metadata.anyName "bucket has no namespace")

namespace Storage

variable (cluster : AzureContext) (bucket : Bucket)

/-- The tags of all resources of a bucket. -/
def tags : StringMap String := metadataTags (mergeTags cluster.tags bucket.spec)

/-- Whether both the account and the container exist. -/
def doesExist : Operation Bool := do
  let name := bucket.spec.name
  let ids := ResourceIds.of cluster name
  if ← named name "get storage account" (Account.doesExist ids) then
    named name "get blob container" (Container.doesExist ids)
  else return false

/-- Put the full state of a bucket in place. -/
def ensure : Operation Unit := do
  let name := bucket.spec.name
  let namespaceName ← namespaceOf bucket
  let ids := ResourceIds.of cluster name
  let tags := tags cluster bucket
  let _ ← named name "upsert storage account"
    (Account.upsert ids (Account.body cluster.region cluster.isPrivate tags))
  named name "upsert blob container" (Container.upsert ids tags)
  if cluster.isPrivate then
    named name "ensure private endpoint" (PrivateEndpoint.ensure ids cluster.region tags)
  match ← named name "list storage account keys" (Account.accessKey? ids) with
  | some key => applySecret namespaceName name ids.accountName key
  | none =>
    throw (.provider name "list storage account keys"
      (.text s!"access key '{Account.keyName}' not found on storage account {ids.accountName}"))

/-- Remove a bucket with all that was put in place for it. -/
def remove : Operation Unit := do
  let name := bucket.spec.name
  let namespaceName ← namespaceOf bucket
  let ids := ResourceIds.of cluster name
  named name "delete private endpoint" (PrivateEndpoint.remove ids)
  let _ ← named name "delete storage account" (Account.remove ids)
  deleteSecret namespaceName name

/-- Apply the expiration of a bucket, and its tags. -/
def configure : Operation Unit := do
  let name := bucket.spec.name
  let ids := ResourceIds.of cluster name
  named name "set lifecycle policy" (Lifecycle.apply ids bucket.spec.expirationDays)
  named name "set container metadata" (Container.upsert ids (tags cluster bucket))

end Storage

namespace AccessRole

variable (cluster : AzureContext) (bucket : Bucket)

/-- Workloads use the secret, so there is no role to configure. -/
def configure : Operation Unit := return ()

/-- Remove the role assignment that the status of a record names. -/
def remove : Operation Unit :=
  match (bucket.status.bind (·.roleAssignmentId)).filter (· ≠ "") with
  | none => return ()
  | some assignment =>
    let name := bucket.spec.name
    let ids := ResourceIds.of cluster name
    named name "delete role assignment" <|
      Steps.orAbsent (Steps.delete (ids.roleAssignment assignment) authorizationVersion) ()

end AccessRole

end BucketOperator.Azure
