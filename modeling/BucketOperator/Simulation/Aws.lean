import BucketOperator.Aws.Call
import BucketOperator.Json.Value
import BucketOperator.Simulation.Rule

/-!
# Simulated AWS

Rules pick calls by name. Without a rule a call succeeds and finds nothing.
-/

namespace BucketOperator.Simulation.Aws

open BucketOperator.Aws

/-- A role to answer with. A missing name is that of the role asked for. -/
structure RoleFound where
  name : Option String
  tags : List Tag

/-- What a success answers. Only the part that fits the call is used. -/
structure Output where
  /-- Missing when a success comes without a role. -/
  role : Option RoleFound
  /-- Keys or resource names of a page, some of which may be missing. -/
  entries : List (Option String)
  next : Option String

/-- Nothing in particular. -/
def Output.empty : Output := ⟨some ⟨none, []⟩, [], none⟩

abbrev Answer := Except BucketOperator.Aws.Failure Output

/-- The page of an output. -/
def Output.page (output : Output) : Page (Option String) := ⟨output.entries, output.next⟩

/-- What an S3 operation gets. -/
def s3Output (output : Output) : (operation : S3Operation) → operation.Output
  | .listObjects .. => output.page
  | .headBucket => ()
  | .createBucket _ => ()
  | .putLifecycle _ => ()
  | .deleteLifecycle => ()
  | .putPolicy _ => ()
  | .putTagging _ => ()
  | .deleteObjects _ => ()
  | .deleteBucket => ()

/-- What an IAM call gets. -/
def iamOutput (output : Output) : (call : IamCall) → call.Output
  | .getRole role => (output.role.map fun r => ⟨r.name.getD role, r.tags⟩ : Option Role)
  | .listAttachedPolicies .. => output.page
  | .listInlinePolicies .. => (⟨output.entries.filterMap id, output.next⟩ : Page String)
  | .createRole .. => ()
  | .updateTrustPolicy .. => ()
  | .tagRole .. => ()
  | .untagRole .. => ()
  | .putRolePolicy .. => ()
  | .detachPolicy .. => ()
  | .deleteInlinePolicy .. => ()
  | .removeFromProfile .. => ()
  | .deleteProfile _ => ()
  | .deleteRole _ => ()

/-- The failure of what looks for an entity that does not exist. -/
def noSuchEntity : BucketOperator.Aws.Failure := .service "NoSuchEntity" 404

/-- What a call without a rule answers. -/
def defaultAnswer (name : String) : Answer :=
  if ["GetRole", "RemoveRoleFromInstanceProfile", "DeleteInstanceProfile"].contains name then
    .error noSuchEntity
  else .ok .empty

/-- The answer to a call by name, and the rules that are left. -/
def answer (name : String) (rules : List (Rule Answer)) : Answer × List (Rule Answer) :=
  let (found, left) := Rule.pick "" name rules
  (found.getD (defaultAnswer name), left)

end BucketOperator.Simulation.Aws
