import BucketOperator.Cluster.Context

/-!
# Names of Azure resources

A bucket is a blob container in a storage account of its own. Everything around it is addressed by
paths that are built from the cluster's context and the bucket's name.
-/

namespace BucketOperator.Azure

/-- The longest name of a storage account. -/
def maxAccountName : Nat := 24

/-- The name of a bucket's storage account: its ASCII letters and digits, in lower case, cut to the
longest name. -/
def accountName (bucket : String) : String :=
  String.ofList (((bucket.toList.filter Char.isAlphanum).map Char.toLower).take maxAccountName)

/-- Tags as container metadata, which forbids hyphens in keys. -/
def metadataTags (tags : StringMap String) : StringMap String :=
  .ofList (tags.toList.map fun (k, v) =>
    (String.ofList (k.toList.map fun c => if c = '-' then '_' else c), v))

/-- The version of the storage resources. -/
def storageVersion : String := "2023-01-01"

/-- The version of private endpoints. -/
def networkVersion : String := "2023-09-01"

/-- The version of private DNS zones. -/
def privateDnsVersion : String := "2020-06-01"

/-- The version of role assignments. -/
def authorizationVersion : String := "2022-04-01"

/-- What the paths of a bucket's resources are built from. -/
structure ResourceIds where
  subscriptionId : String
  resourceGroup : String
  vnetName : String
  subnetName : String
  bucketName : String
  deriving DecidableEq, Repr

namespace ResourceIds

/-- The ids of a bucket's resources in a cluster. -/
def of (cluster : AzureContext) (bucketName : String) : ResourceIds where
  subscriptionId := cluster.subscriptionId
  resourceGroup := cluster.resourceGroup
  vnetName := cluster.vnetName
  subnetName := cluster.subnetName
  bucketName

variable (ids : ResourceIds)

def accountName : String := Azure.accountName ids.bucketName

def group : String := s!"/subscriptions/{ids.subscriptionId}/resourceGroups/{ids.resourceGroup}"

def storageAccount : String :=
  s!"{ids.group}/providers/Microsoft.Storage/storageAccounts/{ids.accountName}"

def listKeys : String := s!"{ids.storageAccount}/listKeys"

def container : String := s!"{ids.storageAccount}/blobServices/default/containers/{ids.bucketName}"

/-- The management policy; an account has one, and its name is fixed. -/
def managementPolicy : String := s!"{ids.storageAccount}/managementPolicies/default"

def roleAssignment (assignment : String) : String :=
  s!"{ids.container}/providers/Microsoft.Authorization/roleAssignments/{assignment}"

def vnet : String := s!"{ids.group}/providers/Microsoft.Network/virtualNetworks/{ids.vnetName}"

def subnet : String := s!"{ids.vnet}/subnets/{ids.subnetName}"

def privateEndpoint : String :=
  s!"{ids.group}/providers/Microsoft.Network/privateEndpoints/{ids.bucketName}"

/-- The private zone, which all buckets of a cluster share. -/
def privateZone : String :=
  s!"{ids.group}/providers/Microsoft.Network/privateDnsZones/privatelink.blob.core.windows.net"

/-- The link of the private zone to the cluster's network. -/
def vnetLink : String := s!"{ids.privateZone}/virtualNetworkLinks/giantswarm-observability"

/-- The address record of the storage account in the private zone. -/
def addressRecord : String := s!"{ids.privateZone}/A/{ids.accountName}"

end ResourceIds

end BucketOperator.Azure
