import BucketOperator.Cluster.Context
import BucketOperator.Kubernetes.Objects
import BucketOperator.Yaml.Value

/-!
# Azure clusters

The context of an Azure cluster is read from its cluster record, the identity that record refers
to, the secret of a service principal, and the values the cluster was rendered from.
-/

namespace BucketOperator.Cluster.Azure

/-- The fields of an identity record, before a client secret is fetched. -/
inductive IdentitySpec where
  | managed (clientId : String)
  | servicePrincipal (tenantId clientId secretName secretNamespace : String)
  | workload (tenantId clientId : String)
  deriving DecidableEq, Repr

/-- How the fields of an identity are shown in diagnostics. -/
def IdentitySpec.describe : IdentitySpec → String
  | .managed clientId => Text.record "UserAssignedMsi" [("client_id", Text.quoted clientId)]
  | .servicePrincipal tenantId clientId secretName secretNamespace =>
    Text.record "ManualServicePrincipal"
      [("tenant_id", Text.quoted tenantId), ("client_id", Text.quoted clientId),
        ("secret_name", Text.quoted secretName), ("secret_namespace", Text.quoted secretNamespace)]
  | .workload tenantId clientId =>
    Text.record "WorkloadIdentity"
      [("tenant_id", Text.quoted tenantId), ("client_id", Text.quoted clientId)]

/-- How a cluster's record is named in messages. -/
def clusterDescription (cluster : ManagementCluster) : String :=
  s!"AzureCluster {cluster.namespaceName}/{cluster.name}"

/-- How an identity record is named in messages. -/
def identityDescription (namespaceName name : String) : String :=
  s!"AzureClusterIdentity {namespaceName}/{name}"

/-- Name and namespace of the identity a cluster record refers to. Without a namespace it is the
cluster's. -/
def identityRef (cluster : ManagementCluster) (record : Json) : Except Failure (String × String) :=
  match (nestedString? record ["spec", "identityRef", "name"]).filter (· ≠ "") with
  | some name =>
    let given := (nestedString? record ["spec", "identityRef", "namespace"]).filter (· ≠ "")
    .ok (name, given.getD cluster.namespaceName)
  | none =>
    .error (.resolution cluster.name s!"missing identityRef in {clusterDescription cluster}")

/-- Read the fields of an identity record. -/
def identitySpec (cluster : ManagementCluster) (description : String) (identity : Json) :
    Except Failure IdentitySpec := do
  let field := requiredString cluster.name description identity
  let type ← field ["spec", "type"]
  if type = "UserAssignedMSI" then
    return .managed (← field ["spec", "clientID"])
  else if type = "ManualServicePrincipal" then
    return .servicePrincipal (← field ["spec", "tenantID"]) (← field ["spec", "clientID"])
      (← field ["spec", "clientSecret", "name"]) (← field ["spec", "clientSecret", "namespace"])
  else if type = "WorkloadIdentity" then
    return .workload (← field ["spec", "tenantID"]) (← field ["spec", "clientID"])
  else .error (.resolution cluster.name s!"unsupported identity type '{type}' in {description}")

/-- Whether values declare a private network. -/
def isPrivateNetwork (values : Yaml.Value) : Bool :=
  (values.path? ["global", "connectivity", "network", "mode"]).bind Yaml.Value.string?
    == some "private"

/-- Whether a cluster is private, by the config map with its values. Without the map or without
values in it the cluster is public; values that cannot be read are a failure. -/
def isPrivate (cluster : ManagementCluster) (configMap : Option Kubernetes.ConfigMap) :
    Except Failure Bool :=
  match (configMap.bind (·.data)).bind (·.get? "values") with
  | none => .ok false
  | some text =>
    match Yaml.parse? text with
    | some values => .ok (isPrivateNetwork values)
    | none =>
      .error (.resolution cluster.name
        (s!"unreadable values in ConfigMap {cluster.namespaceName}/{cluster.name}-cluster-values" ++
          ": invalid document"))

/-- The client secret in a secret, which must be text and not empty. -/
def clientSecret (cluster : ManagementCluster) (description : String) (secret : Kubernetes.Secret) :
    Except Failure String :=
  let bytes := secret.data.bind (·.get? "clientSecret")
  match (bytes.bind String.fromUTF8?).filter (· ≠ "") with
  | some text => .ok text
  | none => .error (.resolution cluster.name s!"missing clientSecret in secret {description}")

/-- The context a cluster record gives, with its identity and whether it is private. -/
def contextOf (cluster : ManagementCluster) (record : Json) (identity : AzureIdentity)
    (isPrivate : Bool) : Except Failure AzureContext := do
  let description := clusterDescription cluster
  let subscriptionId ← requiredString cluster.name description record ["spec", "subscriptionID"]
  let resourceGroup ← requiredString cluster.name description record ["spec", "resourceGroup"]
  let tags ← nestedStringMap cluster.name description record ["spec", "additionalTags"]
  return {
    name := cluster.name
    namespaceName := cluster.namespaceName
    baseDomain := cluster.baseDomain
    region := cluster.region
    subscriptionId
    resourceGroup
    tags
    identity
    isPrivate }

end BucketOperator.Cluster.Azure
