import BucketOperator.Cluster.Aws
import BucketOperator.Cluster.Azure
import BucketOperator.Kubernetes.Client

/-!
# Resolving the cluster

Every reconciliation reads the infrastructure records anew and builds the cloud context from them.
-/

namespace BucketOperator.Cluster

open Kubernetes (get? readRecord asControlPlane)

/-- A step of resolving. -/
abbrev Resolving := ExceptT Failure (Program World)

/-- Ask the Kubernetes API; its failures are those of the control plane. -/
def ask {α : Type} (program : Program World (Except Kubernetes.Failure α)) : Resolving α :=
  ExceptT.mk do return asControlPlane (← program)

/-- Fetch a record, which must exist. -/
def fetchRecord (cluster : ManagementCluster) (collection kind : String)
    (namespaceName : Option String) (name : String) : Resolving Json := do
  match ← ask (get? readRecord collection name) with
  | some record => return record
  | none =>
    let place := match namespaceName with
      | some n => n ++ "/"
      | none => ""
    throw (.resolution cluster.name s!"{kind} {place}{name} not found")

/-- Resolve an AWS cluster. -/
def resolveAws (cluster : ManagementCluster) : Resolving AwsContext := do
  let record ← fetchRecord cluster (Kubernetes.awsClusters cluster.namespaceName) "AWSCluster"
    (some cluster.namespaceName) cluster.name
  let identityName ← (Aws.identityName cluster record : Except Failure String)
  let identity ← fetchRecord cluster Kubernetes.awsRoleIdentities "AWSClusterRoleIdentity" none
    identityName
  (Aws.contextOf cluster record identityName identity : Except Failure AwsContext)

/-- Fetch the client secret of a service principal. -/
def fetchClientSecret (cluster : ManagementCluster) (description namespaceName name : String) :
    Resolving String := do
  let place := s!"{namespaceName}/{name}"
  match ← ask (get? Kubernetes.Secret.read (Kubernetes.secrets namespaceName) name) with
  | some secret => (Azure.clientSecret cluster place secret : Except Failure String)
  | none =>
    throw (.resolution cluster.name s!"client secret {place} for {description} not found")

/-- Turn the fields of an identity into an identity. -/
def resolveIdentity (cluster : ManagementCluster) (description : String) :
    Azure.IdentitySpec → Resolving AzureIdentity
  | .managed clientId => return .managed clientId
  | .workload tenantId clientId => return .workload tenantId clientId
  | .servicePrincipal tenantId clientId secretName secretNamespace =>
    return .servicePrincipal tenantId clientId
      (← fetchClientSecret cluster description secretNamespace secretName)

/-- Resolve an Azure cluster. -/
def resolveAzure (cluster : ManagementCluster) : Resolving AzureContext := do
  let record ← fetchRecord cluster (Kubernetes.azureClusters cluster.namespaceName) "AzureCluster"
    (some cluster.namespaceName) cluster.name
  let (name, namespaceName) ← (Azure.identityRef cluster record : Except Failure (String × String))
  let identityRecord ← fetchRecord cluster (Kubernetes.azureIdentities namespaceName)
    "AzureClusterIdentity" (some namespaceName) name
  let description := Azure.identityDescription namespaceName name
  let spec ← (Azure.identitySpec cluster description identityRecord :
    Except Failure Azure.IdentitySpec)
  let identity ← resolveIdentity cluster description spec
  let values ← ask <| get? Kubernetes.ConfigMap.read (Kubernetes.configMaps cluster.namespaceName)
    (cluster.name ++ "-cluster-values")
  let isPrivate ← (Azure.isPrivate cluster values : Except Failure Bool)
  (Azure.contextOf cluster record identity isPrivate : Except Failure AzureContext)

/-- Resolve the cloud context of a cluster. -/
def resolve (cluster : ManagementCluster) : Program World (Except Failure ClusterContext) :=
  match cluster.provider with
  | .aws => (ClusterContext.aws <$> resolveAws cluster).run
  | .azure => (ClusterContext.azure <$> resolveAzure cluster).run

end BucketOperator.Cluster
