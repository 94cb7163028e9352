import BucketOperator.Failure

/-!
# Calls to AWS

The calls the operator makes of S3 and IAM, with what each answers when it succeeds. All calls of
a session are made under one assumed role.
-/

namespace BucketOperator.Aws

/-- Where calls go and as whom they are made. -/
structure Session where
  region : String
  roleArn : String
  name : String
  deriving DecidableEq, Repr, Inhabited

structure Tag where
  key : String
  value : String
  deriving DecidableEq, Repr, Inhabited

/-- A rule that expires objects. -/
structure LifecycleRule where
  id : String
  enabled : Bool
  /-- Which keys the rule covers, by their beginning. -/
  keyStart : String
  days : Int32
  deriving DecidableEq

/-- A page of a listing: some of the entries, and where the next page starts. -/
structure Page (α : Type) where
  entries : List α
  next : Option String
  deriving DecidableEq, Repr, Inhabited

inductive S3Operation where
  | headBucket
  | createBucket (location : Option String)
  | putLifecycle (rules : List LifecycleRule)
  | deleteLifecycle
  | putPolicy (policy : String)
  | putTagging (tags : List Tag)
  | listObjects (maxKeys : Nat) (token : Option String)
  | deleteObjects (keys : List String)
  | deleteBucket
  deriving DecidableEq

/-- The name of an operation in the API. -/
def S3Operation.name : S3Operation → String
  | .headBucket => "HeadBucket"
  | .createBucket _ => "CreateBucket"
  | .putLifecycle _ => "PutBucketLifecycleConfiguration"
  | .deleteLifecycle => "DeleteBucketLifecycle"
  | .putPolicy _ => "PutBucketPolicy"
  | .putTagging _ => "PutBucketTagging"
  | .listObjects .. => "ListObjectsV2"
  | .deleteObjects _ => "DeleteObjects"
  | .deleteBucket => "DeleteBucket"

/-- What an S3 operation answers: a page of object keys, where an object may lack its key. -/
def S3Operation.Output : S3Operation → Type
  | .listObjects .. => Page (Option String)
  | _ => Unit

/-- An S3 operation on a bucket. -/
structure S3Call where
  bucket : String
  operation : S3Operation

/-- A role as IAM describes it. -/
structure Role where
  name : String
  tags : List Tag
  deriving DecidableEq, Repr, Inhabited

inductive IamCall where
  | getRole (role : String)
  | createRole (role trustPolicy description : String) (tags : List Tag)
  | updateTrustPolicy (role policy : String)
  | tagRole (role : String) (tags : List Tag)
  | untagRole (role : String) (keys : List String)
  | putRolePolicy (role name policy : String)
  | listAttachedPolicies (role : String) (token : Option String)
  | detachPolicy (role arn : String)
  | listInlinePolicies (role : String) (token : Option String)
  | deleteInlinePolicy (role name : String)
  | removeFromProfile (profile role : String)
  | deleteProfile (profile : String)
  | deleteRole (role : String)
  deriving DecidableEq

/-- The name of a call in the API. -/
def IamCall.name : IamCall → String
  | .getRole _ => "GetRole"
  | .createRole .. => "CreateRole"
  | .updateTrustPolicy .. => "UpdateAssumeRolePolicy"
  | .tagRole .. => "TagRole"
  | .untagRole .. => "UntagRole"
  | .putRolePolicy .. => "PutRolePolicy"
  | .listAttachedPolicies .. => "ListAttachedRolePolicies"
  | .detachPolicy .. => "DetachRolePolicy"
  | .listInlinePolicies .. => "ListRolePolicies"
  | .deleteInlinePolicy .. => "DeleteRolePolicy"
  | .removeFromProfile .. => "RemoveRoleFromInstanceProfile"
  | .deleteProfile _ => "DeleteInstanceProfile"
  | .deleteRole _ => "DeleteRole"

/-- What an IAM call answers. A role may be missing from a success, and an attached policy may lack
its resource name. -/
def IamCall.Output : IamCall → Type
  | .getRole _ => Option Role
  | .listAttachedPolicies .. => Page (Option String)
  | .listInlinePolicies .. => Page String
  | _ => Unit

end BucketOperator.Aws
