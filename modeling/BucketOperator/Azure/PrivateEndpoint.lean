import BucketOperator.Azure.Api
import BucketOperator.Azure.Naming

/-!
# Private endpoints

On a private cluster an account is reached through an endpoint in the cluster's network. A private
zone, linked to that network, resolves the account's name to the endpoint's addresses.
-/

namespace BucketOperator.Azure.PrivateEndpoint

/-- Private zones belong to no region. -/
def zoneLocation : Json := .string "global"

def zoneBody (tags : StringMap String) : Json :=
  .object [("location", zoneLocation), ("tags", .ofStringMap tags)]

def linkBody (vnet : String) (tags : StringMap String) : Json :=
  .object [
    ("location", zoneLocation),
    ("properties", .object [
      ("registrationEnabled", .bool false),
      ("virtualNetwork", .object [("id", .string vnet)])]),
    ("tags", .ofStringMap tags)]

def endpointBody (ids : ResourceIds) (location : String) (tags : StringMap String) : Json :=
  .object [
    ("location", .string location),
    ("properties", .object [
      ("customNetworkInterfaceName", .string (ids.bucketName ++ "-nodes-nic")),
      ("privateLinkServiceConnections", .array [
        .object [
          ("name", .string ids.bucketName),
          ("properties", .object [
            ("groupIds", .strings ["blob"]),
            ("privateLinkServiceId", .string ids.storageAccount)])]]),
      ("subnet", .object [("id", .string ids.subnet)])]),
    ("tags", .ofStringMap tags)]

/-- The addresses of an endpoint, from its DNS configurations in order. -/
def addresses (endpoint : Json) : List String :=
  let configs := ((endpoint.path? ["properties", "customDnsConfigs"]).bind Json.array?).getD []
  let lists := configs.filterMap fun config => (config.get? "ipAddresses").bind Json.array?
  lists.flatten.filterMap Json.string?

/-- How long an address record may be cached, in seconds. -/
def timeToLive : Int := 3600

def recordBody (addresses : List String) (metadata : StringMap String) : Json :=
  .object [
    ("properties", .object [
      ("aRecords", .array (addresses.map fun ip => .object [("ipv4Address", .string ip)])),
      ("metadata", .ofStringMap metadata),
      ("ttl", .int timeToLive)])]

/-- Put the zone, its link, the endpoint and the account's address record in place. -/
def ensure (ids : ResourceIds) (location : String) (tags : StringMap String) : Steps Unit := do
  let _ ← Steps.put ids.privateZone privateDnsVersion (zoneBody tags)
  let _ ← Steps.put ids.vnetLink privateDnsVersion (linkBody ids.vnet tags)
  let endpoint ← Steps.put ids.privateEndpoint networkVersion (endpointBody ids location tags)
  let _ ← Steps.put ids.addressRecord privateDnsVersion (recordBody (addresses endpoint) tags)

/-- Remove the address record and the endpoint. The zone and its link are shared and stay. -/
def remove (ids : ResourceIds) : Steps Unit := do
  Steps.orAbsent (Steps.delete ids.addressRecord privateDnsVersion) ()
  Steps.orAbsent (Steps.delete ids.privateEndpoint networkVersion) ()

end BucketOperator.Azure.PrivateEndpoint
