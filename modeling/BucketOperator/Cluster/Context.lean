import BucketOperator.Cluster.Record
import BucketOperator.Kubernetes.Metadata

/-!
# Cloud contexts

What is known about the cloud side of a cluster once it has been resolved: where resources go,
which identity reaches them, and the tags they all carry.
-/

namespace BucketOperator

/-- The connection to the AWS account of a cluster. -/
structure AwsContext where
  name : String
  namespaceName : String
  baseDomain : String
  region : String
  /-- The role assumed for every call. -/
  roleArn : String
  /-- The account that owns the role. -/
  accountId : String
  tags : StringMap String
  deriving DecidableEq, Inhabited

namespace AwsContext

/-- Whether the cluster runs in the China partition. -/
def isChina (c : AwsContext) : Bool := c.region.startsWith "cn-"

/-- The partition of resource names. -/
def partition (c : AwsContext) : String := if c.isChina then "aws-cn" else "aws"

/-- The domain of the issuer of service account tokens; in China it is served from S3. -/
def irsaDomain (c : AwsContext) : String :=
  if c.isChina then
    s!"s3.{c.region}.amazonaws.com.cn/{c.accountId}-g8s-{c.name}-oidc-pod-identity-v3"
  else s!"irsa.{c.name}.{c.baseDomain}"

/-- How a context is shown in diagnostics. -/
def describe (c : AwsContext) : String :=
  Text.record "AwsClusterContext"
    [("name", Text.quoted c.name), ("namespace", Text.quoted c.namespaceName),
      ("base_domain", Text.quoted c.baseDomain), ("region", Text.quoted c.region),
      ("role_arn", Text.quoted c.roleArn), ("account_id", Text.quoted c.accountId),
      ("tags", Text.entries c.tags.toList)]

end AwsContext

/-- How to authenticate against Azure. -/
inductive AzureIdentity where
  /-- A managed identity; the instance metadata service hands out tokens. -/
  | managed (clientId : String)
  | servicePrincipal (tenantId clientId clientSecret : String)
  /-- The projected service account token is exchanged. -/
  | workload (tenantId clientId : String)
  deriving DecidableEq, Repr, Inhabited

/-- How an identity is shown in diagnostics, without its secret. -/
def AzureIdentity.describe : AzureIdentity → String
  | .managed clientId => Text.record "UserAssignedMsi" [("client_id", Text.quoted clientId)]
  | .servicePrincipal tenantId clientId _ =>
    Text.record "ManualServicePrincipal"
      [("tenant_id", Text.quoted tenantId), ("client_id", Text.quoted clientId),
        ("client_secret", Text.quoted "<redacted>")]
  | .workload tenantId clientId =>
    Text.record "WorkloadIdentity"
      [("tenant_id", Text.quoted tenantId), ("client_id", Text.quoted clientId)]

/-- The connection to the Azure subscription of a cluster. -/
structure AzureContext where
  name : String
  namespaceName : String
  baseDomain : String
  region : String
  subscriptionId : String
  resourceGroup : String
  tags : StringMap String
  identity : AzureIdentity
  /-- Whether storage accounts are reached through private endpoints only. -/
  isPrivate : Bool
  deriving DecidableEq, Inhabited

namespace AzureContext

/-- The virtual network of the cluster. -/
def vnetName (c : AzureContext) : String := c.name ++ "-vnet"

/-- The subnet that receives private endpoints. -/
def subnetName (_ : AzureContext) : String := "node-subnet"

/-- How a context is shown in diagnostics; its identity is shown without its secret. -/
def describe (c : AzureContext) : String :=
  Text.record "AzureClusterContext"
    [("name", Text.quoted c.name), ("namespace", Text.quoted c.namespaceName),
      ("base_domain", Text.quoted c.baseDomain), ("region", Text.quoted c.region),
      ("subscription_id", Text.quoted c.subscriptionId),
      ("resource_group", Text.quoted c.resourceGroup), ("tags", Text.entries c.tags.toList),
      ("identity", c.identity.describe), ("private", toString c.isPrivate)]

end AzureContext

/-- The cloud context of a cluster. -/
inductive ClusterContext where
  | aws (context : AwsContext)
  | azure (context : AzureContext)
  deriving DecidableEq, Inhabited

namespace ClusterContext

def name : ClusterContext → String
  | .aws c => c.name
  | .azure c => c.name

def provider : ClusterContext → CloudProvider
  | .aws _ => .aws
  | .azure _ => .azure

/-- How a context is shown in diagnostics. -/
def describe : ClusterContext → String
  | .aws c => Text.wrapped "Aws" c.describe
  | .azure c => Text.wrapped "Azure" c.describe

end ClusterContext

end BucketOperator
