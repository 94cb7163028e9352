import BucketOperator.Failure

/-!
# The management cluster

The cluster whose cloud account holds the buckets.
-/

namespace BucketOperator

/-- A cloud provider. -/
inductive CloudProvider where
  | aws
  | azure
  deriving DecidableEq, Repr, Inhabited

namespace CloudProvider

def name : CloudProvider → String
  | .aws => "aws"
  | .azure => "azure"

/-- The provider of a Cluster API implementation. -/
def ofClusterApi : String → Except Failure CloudProvider
  | "capa" => .ok .aws
  | "capz" => .ok .azure
  | name => .error (.unsupportedProvider name)

end CloudProvider

structure ManagementCluster where
  name : String
  /-- Where the infrastructure records of the cluster are. -/
  namespaceName : String
  baseDomain : String
  provider : CloudProvider
  region : String
  deriving DecidableEq, Repr, Inhabited

end BucketOperator
