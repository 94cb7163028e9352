import BucketOperator.Cluster.Context

/-!
# AWS clusters

The context of an AWS cluster is read from its cluster record and the role identity that record
refers to.
-/

namespace BucketOperator.Cluster.Aws

/-- The account of a resource name `arn:partition:service:region:account:resource`. -/
def accountOfArn? (arn : String) : Option String :=
  match arn.toList.splitOn ':' with
  | ['a', 'r', 'n'] :: _ :: _ :: _ :: account :: _ =>
    if !account.isEmpty && account.all Char.isDigit then some (String.ofList account) else none
  | _ => none

/-- The name of the role identity a cluster record refers to. -/
def identityName (cluster : ManagementCluster) (record : Json) : Except Failure String :=
  match nestedString? record ["spec", "identityRef", "name"] with
  | some "" => missing
  | some name => .ok name
  | none => missing
where
  missing :=
    .error (.resolution cluster.name
      s!"missing identityRef in AWSCluster {cluster.namespaceName}/{cluster.name}")

/-- The context two records give. -/
def contextOf (cluster : ManagementCluster) (record : Json) (identityName : String)
    (identity : Json) : Except Failure AwsContext := do
  let description := s!"AWSClusterRoleIdentity {identityName}"
  let roleArn ← requiredString cluster.name description identity ["spec", "roleARN"]
  let accountId ←
    match accountOfArn? roleArn with
    | some account => .ok account
    | none =>
      .error (.resolution cluster.name s!"malformed roleARN '{roleArn}' in {description}")
  let tags ← nestedStringMap cluster.name s!"AWSCluster {cluster.namespaceName}/{cluster.name}"
    record ["spec", "additionalTags"]
  return {
    name := cluster.name
    namespaceName := cluster.namespaceName
    baseDomain := cluster.baseDomain
    region := cluster.region
    roleArn
    accountId
    tags }

end BucketOperator.Cluster.Aws
