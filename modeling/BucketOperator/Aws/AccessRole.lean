import BucketOperator.Aws.Storage

/-!
# Access roles on IAM

A role trusts exactly one service account and carries one inline policy, named after itself, that
grants access to the bucket.
-/

namespace BucketOperator.Aws.AccessRole

variable (cluster : AwsContext) (bucket : Bucket) (patience : Nat)

/-- The role a record asks for. -/
def requested : Operation BucketOperator.AccessRole :=
  match bucket.spec.requestedRole with
  | some role => return role
  | none =>
    throw (.invalidBucket bucket.spec.name "access role requested without a role name")

/-- Make a call as a named part of an operation on the bucket's role. -/
def step {α : Type} (operation : String) (call : Program Api (Except Failure α)) : Operation α :=
  named bucket.spec.name operation call

/-- The role, if it exists. -/
def find? (role : String) : Operation (Option Role) :=
  namedOrAbsent bucket.spec.name "get role" none (callIam (.getRole role))

def trustPolicy (role : BucketOperator.AccessRole) : String :=
  Policy.forTrust cluster.partition cluster.accountId cluster.irsaDomain
    role.serviceAccountNamespace role.serviceAccountName

def description (role : String) : String := s!"Role for Giant Swarm managed {role}"

/-- Whether tags differ from the wanted ones, in whatever order they are listed. -/
def tagsDiffer (current : List Tag) (wanted : StringMap String) : Bool :=
  .ofList (current.map fun t => (t.key, t.value)) ≠ wanted

/-- Replace the tags of a role. -/
def retag (role : Role) (wanted : StringMap String) : Operation Unit := do
  match role.tags.map (·.key) with
  | [] => pure ()
  | keys => step bucket "untag role" (callIam (.untagRole role.name keys))
  match Storage.tagList wanted with
  | [] => return ()
  | tags => step bucket "tag role" (callIam (.tagRole role.name tags))

/-- Create the role, or bring an existing one up to date. -/
def configure : Operation Unit := do
  let role ← requested bucket
  let name := role.roleName
  let trust := trustPolicy cluster role
  let wanted := mergeTags cluster.tags bucket.spec
  match ← find? bucket name with
  | none =>
    step bucket "create role"
      (callIam (.createRole name trust (description name) (Storage.tagList wanted)))
  | some existing =>
    step bucket "update assume role policy" (callIam (.updateTrustPolicy name trust))
    if tagsDiffer existing.tags wanted then retag bucket existing wanted
  step bucket "put role policy" <|
    callIam (.putRolePolicy name name
      (Policy.forRole cluster.partition bucket.spec.name role.extraBucketNames))

/-- Detach all managed policies and delete all inline ones. -/
def stripPolicies (role : String) : Operation Unit := do
  let attached ← collectPages
    (fun token => step bucket "list attached role policies"
      (callIam (.listAttachedPolicies role token))) patience none
  for arn in attached.filterMap id do
    step bucket "detach role policy" (callIam (.detachPolicy role arn))
  let inline ← collectPages
    (fun token => step bucket "list role policies" (callIam (.listInlinePolicies role token)))
    patience none
  for name in inline do
    step bucket "delete role policy" (callIam (.deleteInlinePolicy role name))

/-- Remove the instance profile of the role's name; an absent one is skipped. -/
def removeProfile (role : String) : Operation Unit := do
  namedOrAbsent bucket.spec.name "remove role from instance profile" ()
    (callIam (.removeFromProfile role role))
  namedOrAbsent bucket.spec.name "delete instance profile" () (callIam (.deleteProfile role))

/-- Delete the role with all that belongs to it; an absent role is no failure. -/
def remove : Operation Unit := do
  let role ← requested bucket
  let name := role.roleName
  match ← find? bucket name with
  | none => return ()
  | some _ =>
    stripPolicies bucket patience name
    removeProfile bucket name
    step bucket "delete role" (callIam (.deleteRole name))

end BucketOperator.Aws.AccessRole
