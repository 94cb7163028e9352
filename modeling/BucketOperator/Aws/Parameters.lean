import BucketOperator.Aws.Call
import BucketOperator.Json.Value

/-!
# Parameters of calls to AWS

What a call says besides its name, as a log shows it: S3 operations by what they set, IAM calls by
the names of their parameters.
-/

namespace BucketOperator.Aws

/-- Tags as pairs. -/
def tagsJson (tags : List Tag) : Json := .array (tags.map fun t => .strings [t.key, t.value])

/-- One part of each rule as text. -/
def ruleTexts (rules : List LifecycleRule) (part : LifecycleRule → String) : Json :=
  .strings (rules.map part)

/-- What an S3 operation says besides its bucket. -/
def S3Operation.parameters : S3Operation → List (String × Json)
  | .createBucket location => [("location", .ofString? location)]
  | .putLifecycle rules =>
    [("id", ruleTexts rules (·.id)),
      ("status", ruleTexts rules fun r => if r.enabled then "Enabled" else "Disabled"),
      ("prefix", ruleTexts rules (·.keyStart)),
      ("days", ruleTexts rules fun r => toString r.days.toInt)]
  | .putPolicy policy => [("policy", .string policy)]
  | .putTagging tags => [("tags", tagsJson tags)]
  | .listObjects maxKeys token =>
    [("max_keys", .string (toString maxKeys)), ("token", .ofString? token)]
  | .deleteObjects keys => [("keys", .strings keys), ("quiet", .string "true")]
  | _ => []

/-- Where a page starts, if it is not the first. -/
def markerParameter (token : Option String) : List (String × Json) :=
  (token.map fun t => ("Marker", Json.string t)).toList

def IamCall.parameters : IamCall → List (String × Json)
  | .getRole role => [("RoleName", .string role)]
  | .createRole role trustPolicy description tags =>
    [("RoleName", .string role), ("AssumeRolePolicyDocument", .string trustPolicy),
      ("Description", .string description), ("Tags", tagsJson tags)]
  | .updateTrustPolicy role policy =>
    [("RoleName", .string role), ("PolicyDocument", .string policy)]
  | .tagRole role tags => [("RoleName", .string role), ("Tags", tagsJson tags)]
  | .untagRole role keys => [("RoleName", .string role), ("TagKeys", .strings keys)]
  | .putRolePolicy role name policy =>
    [("RoleName", .string role), ("PolicyName", .string name), ("PolicyDocument", .string policy)]
  | .listAttachedPolicies role token => ("RoleName", .string role) :: markerParameter token
  | .detachPolicy role arn => [("RoleName", .string role), ("PolicyArn", .string arn)]
  | .listInlinePolicies role token => ("RoleName", .string role) :: markerParameter token
  | .deleteInlinePolicy role name => [("RoleName", .string role), ("PolicyName", .string name)]
  | .removeFromProfile profile role =>
    [("InstanceProfileName", .string profile), ("RoleName", .string role)]
  | .deleteProfile profile => [("InstanceProfileName", .string profile)]
  | .deleteRole role => [("RoleName", .string role)]

end BucketOperator.Aws
