import BucketOperator.Azure.Api
import BucketOperator.Azure.Naming

/-!
# Storage accounts

Each bucket has an account of its own, which is reached over TLS, and on private clusters through
a private endpoint only.
-/

namespace BucketOperator.Azure.Account

/-- The body of a storage account. -/
def body (location : String) (isPrivate : Bool) (tags : StringMap String) : Json :=
  .object [
    ("kind", .string "BlobStorage"),
    ("location", .string location),
    ("properties", .object [
      ("accessTier", .string "Hot"),
      ("allowSharedKeyAccess", .bool true),
      ("encryption", .object [
        ("keySource", .string "Microsoft.Storage"),
        ("services", .object [
          ("blob", .object [("enabled", .bool true), ("keyType", .string "Account")])])]),
      ("minimumTlsVersion", .string "TLS1_2"),
      ("publicNetworkAccess", .string (if isPrivate then "Disabled" else "Enabled")),
      ("supportsHttpsTrafficOnly", .bool true)]),
    ("sku", .object [("name", .string "Standard_LRS")]),
    ("tags", .ofStringMap tags)]

/-- Whether the account exists. -/
def doesExist (ids : ResourceIds) : Steps Bool :=
  Steps.orAbsent ((fun _ => true) <$> Steps.get ids.storageAccount storageVersion) false

/-- Create or update the account. -/
def upsert (ids : ResourceIds) (body : Json) : Steps Json :=
  Steps.put ids.storageAccount storageVersion body

/-- Delete the account with its containers; tells whether it existed. -/
def remove (ids : ResourceIds) : Steps Bool :=
  Steps.orAbsent ((fun _ => true) <$> Steps.delete ids.storageAccount storageVersion) false

/-- The access key that workloads get. -/
def keyName : String := "key1"

/-- The value of a key in a list of keys; the first key of a name counts. -/
def findKey? (keys : Json) (name : String) : Option String := do
  let items ← (← keys.get? "keys").array?
  let key ← items.find? fun key => (key.get? "keyName").bind Json.string? == some name
  (← key.get? "value").string?

/-- The value of the account's access key. -/
def accessKey? (ids : ResourceIds) : Steps (Option String) := do
  return findKey? (← Steps.post ids.listKeys storageVersion) keyName

end BucketOperator.Azure.Account
