import BucketOperator.Kubernetes.Metadata

/-!
# Bucket records

A record states which bucket is wanted, what becomes of it when the record is deleted, and which
role may use it. Its status says whether everything is in place.
-/

namespace BucketOperator

/-- What happens to the provider's bucket once its record is deleted. -/
inductive ReclaimPolicy where
  /-- The bucket and its data stay. -/
  | retain
  /-- The bucket is purged and deleted, and its access role with it. -/
  | delete
  deriving DecidableEq, Repr, Inhabited

/-- A role that lets one service account use the bucket. -/
structure AccessRole where
  roleName : String
  extraBucketNames : List String
  serviceAccountName : String
  serviceAccountNamespace : String
  deriving DecidableEq, Repr, Inhabited

structure BucketTag where
  key : String
  value : String
  deriving DecidableEq, Repr, Inhabited

/-- The desired state of a bucket. -/
structure BucketSpec where
  name : String
  /-- After how many days objects expire. -/
  expirationDays : Option Int32
  reclaimPolicy : ReclaimPolicy
  accessRole : Option AccessRole
  tags : List BucketTag
  deriving DecidableEq, Inhabited

/-- The observed state of a bucket. -/
structure BucketStatus where
  ready : Bool
  bucketId : Option String
  /-- A role assignment left by earlier releases, to be removed with the bucket. -/
  roleAssignmentId : Option String
  deriving DecidableEq, Repr, Inhabited

/-- A bucket record as the control plane stores it. -/
structure Bucket where
  metadata : Kubernetes.Metadata
  spec : BucketSpec
  status : Option BucketStatus
  deriving DecidableEq, Inhabited

namespace BucketSpec

/-- The tags with a key and a value; the last value of a key wins. -/
def normalizedTags (spec : BucketSpec) : StringMap String :=
  .ofList ((spec.tags.filter fun t => t.key ≠ "" && t.value ≠ "").map fun t => (t.key, t.value))

/-- The access role, if one with a name is asked for. -/
def requestedRole (spec : BucketSpec) : Option AccessRole :=
  spec.accessRole.filter fun role => role.roleName ≠ ""

end BucketSpec

/-- The tags of provider resources: the cluster's overlaid with the record's, empty ones dropped. -/
def mergeTags (clusterTags : StringMap String) (spec : BucketSpec) : StringMap String :=
  (clusterTags.filter fun k v => k ≠ "" && v ≠ "").insertAll spec.normalizedTags.toList

namespace Bucket

/-- The finalizer placed on a record before anything is done at the provider. -/
def finalizer : String := "bucket.objectstorage.giantswarm.io"

/-- Whether the control plane has marked the record for deletion. -/
def isBeingDeleted (bucket : Bucket) : Bool := bucket.metadata.deletionTimestamp.isSome

def hasFinalizer (bucket : Bucket) (finalizer : String) : Bool :=
  bucket.metadata.finalizers.contains finalizer

/-- The status of a bucket that is in place; a role assignment already recorded is kept. -/
def readyStatus (bucket : Bucket) : BucketStatus where
  ready := true
  bucketId := some bucket.spec.name
  roleAssignmentId := bucket.status.bind (·.roleAssignmentId)

end Bucket

end BucketOperator
