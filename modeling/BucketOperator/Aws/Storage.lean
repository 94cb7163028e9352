import BucketOperator.Aws.Api
import BucketOperator.Aws.Policy
import BucketOperator.Bucket.Record
import BucketOperator.Cluster.Context

/-!
# Buckets on S3

A bucket is created bare; its lifecycle, policy and tags are set by configuring it. Deleting a
bucket purges it page by page first.
-/

namespace BucketOperator.Aws.Storage

variable (cluster : AwsContext) (bucket : Bucket) (patience : Nat)

/-- Whether an answer about a bucket says that it does not exist. -/
def isAbsent : Failure → Bool
  | .service _ status => status == 404
  | .dispatch => false

/-- Whether the bucket exists. -/
def doesExist : Operation Bool :=
  let name := bucket.spec.name
  ExceptT.mk do
    match ← callS3 name .headBucket with
    | .ok _ => return .ok true
    | .error failure =>
      if isAbsent failure then return .ok false
      else return .error (.provider name "head bucket" (.aws failure))

/-- Where a bucket of a region is placed; the default region must not be named. -/
def location? (region : String) : Option String :=
  if region = "" ∨ region = "us-east-1" then none else some region

def create : Operation Unit :=
  named bucket.spec.name "create bucket" <|
    callS3 bucket.spec.name (.createBucket (location? cluster.region))

/-- A bucket has nothing to update but its configuration. -/
def update : Operation Unit := return ()

/-- The keys of a page; objects without a key are skipped. -/
def keysOf (page : Page (Option String)) : List String := page.entries.filterMap id

/-- Delete the objects of a page, if it has any. -/
def purgePage (page : Page (Option String)) : Operation Unit := do
  match keysOf page with
  | [] => return ()
  | keys => named bucket.spec.name "delete objects" (callS3 bucket.spec.name (.deleteObjects keys))

/-- How many objects a page lists at most. -/
def pageSize : Nat := 1000

/-- Delete the bucket with everything in it. -/
def remove : Operation Unit := do
  let name := bucket.spec.name
  let list (token : Option String) : Operation (Page (Option String)) :=
    named name "list objects" (callS3 name (.listObjects pageSize token))
  forPages list (purgePage bucket) patience none
  named name "delete bucket" (callS3 name .deleteBucket)

/-- The rule that expires every object after some days. -/
def expirationRule (days : Int32) : LifecycleRule := ⟨"Expiration", true, "", days⟩

/-- Set the expiration of a bucket, or remove its lifecycle. -/
def setLifecycle : Operation Unit :=
  let name := bucket.spec.name
  match bucket.spec.expirationDays with
  | some days =>
    named name "put bucket lifecycle configuration"
      (callS3 name (.putLifecycle [expirationRule days]))
  | none => named name "delete bucket lifecycle" (callS3 name .deleteLifecycle)

/-- Tags as AWS takes them, in key order. -/
def tagList (tags : StringMap String) : List Tag := tags.toList.map fun (key, value) => ⟨key, value⟩

/-- Apply the lifecycle, the policy and the tags of a bucket. -/
def configure : Operation Unit := do
  let name := bucket.spec.name
  setLifecycle bucket
  named name "put bucket policy"
    (callS3 name (.putPolicy (Policy.forBucket cluster.partition name)))
  named name "put bucket tagging"
    (callS3 name (.putTagging (tagList (mergeTags cluster.tags bucket.spec))))

end BucketOperator.Aws.Storage
