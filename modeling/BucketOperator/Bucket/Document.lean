import BucketOperator.Bucket.Record

/-!
# Bucket records as documents

Records are closed: an object, or an array of the fields in order, with no field given twice.
What is empty or absent is left out when a record is written, and read back as its default.
-/

namespace BucketOperator

open Json

namespace ReclaimPolicy

def name : ReclaimPolicy → String
  | .retain => "Retain"
  | .delete => "Delete"

def ofName? : String → Option ReclaimPolicy
  | "Retain" => some .retain
  | "Delete" => some .delete
  | _ => none

/-- A policy is its name, or an object with that name as its only member and null as its value. -/
def read : Tree → Option ReclaimPolicy
  | .string s => s.bind ofName?
  | .object [(key, .null)] => key.bind ofName?
  | _ => none

end ReclaimPolicy

namespace AccessRole

def fieldNames : List String :=
  ["roleName", "extraBucketNames", "serviceAccountName", "serviceAccountNamespace"]

def read (tree : Tree) : Option AccessRole := do
  let fields ← tree.closedFields? fieldNames
  return {
    roleName := ← fields.required "roleName" Tree.readString
    extraBucketNames := ← fields.orElse "extraBucketNames" [] (Tree.readList Tree.readString)
    serviceAccountName := ← fields.required "serviceAccountName" Tree.readString
    serviceAccountNamespace := ← fields.required "serviceAccountNamespace" Tree.readString }

def toJson (role : AccessRole) : Json :=
  .object <|
    (if role.extraBucketNames.isEmpty then []
      else [("extraBucketNames", .strings role.extraBucketNames)]) ++
    [("roleName", .string role.roleName),
      ("serviceAccountName", .string role.serviceAccountName),
      ("serviceAccountNamespace", .string role.serviceAccountNamespace)]

end AccessRole

namespace BucketTag

def read (tree : Tree) : Option BucketTag := do
  let fields ← tree.closedFields? ["key", "value"]
  return {
    key := ← fields.required "key" Tree.readString
    value := ← fields.required "value" Tree.readString }

def toJson (tag : BucketTag) : Json :=
  .object [("key", .string tag.key), ("value", .string tag.value)]

end BucketTag

namespace BucketSpec

/-- The expiration policy is a record with the number of days as its only field. -/
def readExpiration (tree : Tree) : Option Int32 := do
  let fields ← tree.closedFields? ["days"]
  fields.required "days" Tree.readInt32

def fieldNames : List String :=
  ["name", "expirationPolicy", "reclaimPolicy", "accessRole", "tags"]

def read (tree : Tree) : Option BucketSpec := do
  let fields ← tree.closedFields? fieldNames
  return {
    name := ← fields.required "name" Tree.readString
    expirationDays := ← fields.optional "expirationPolicy" readExpiration
    reclaimPolicy := ← fields.orElse "reclaimPolicy" .retain ReclaimPolicy.read
    accessRole := ← fields.optional "accessRole" AccessRole.read
    tags := ← fields.orElse "tags" [] (Tree.readList BucketTag.read) }

def toJson (spec : BucketSpec) : Json :=
  .object <|
    (match spec.accessRole with
      | some role => [("accessRole", role.toJson)]
      | none => []) ++
    (match spec.expirationDays with
      | some days => [("expirationPolicy", .object [("days", .int days.toInt)])]
      | none => []) ++
    [("name", .string spec.name), ("reclaimPolicy", .string spec.reclaimPolicy.name)] ++
    (if spec.tags.isEmpty then [] else [("tags", .array (spec.tags.map BucketTag.toJson))])

end BucketSpec

namespace BucketStatus

def fieldNames : List String := ["bucketReady", "bucketID", "bucketAzureRoleAssignmentID"]

def read (tree : Tree) : Option BucketStatus := do
  let fields ← tree.closedFields? fieldNames
  return {
    ready := ← fields.orElse "bucketReady" false Tree.readBool
    bucketId := ← fields.optional "bucketID" Tree.readString
    roleAssignmentId := ← fields.optional "bucketAzureRoleAssignmentID" Tree.readString }

def toJson (status : BucketStatus) : Json :=
  .object <|
    (match status.roleAssignmentId with
      | some id => [("bucketAzureRoleAssignmentID", .string id)]
      | none => []) ++
    (match status.bucketId with
      | some id => [("bucketID", .string id)]
      | none => []) ++
    [("bucketReady", .bool status.ready)]

end BucketStatus

namespace Bucket

/-- A record has metadata, a spec and perhaps a status. Written as an array it must list all
three. -/
def read (tree : Tree) : Option Bucket := do
  let fields ← tree.closedFields? ["metadata", "spec", "status"]
  guard (tree matches .object _ || fields.length = 3)
  return {
    metadata := ← fields.required "metadata" Kubernetes.Metadata.read
    spec := ← fields.required "spec" BucketSpec.read
    status := ← fields.optional "status" BucketStatus.read }

/-- The record a JSON value stands for. -/
def ofJson? (value : Json) : Option Bucket := read (.ofJson value)

/-- The record a JSON text stands for. -/
def parse? (text : String) : Option Bucket := (Tree.parse? text).bind read

end Bucket

end BucketOperator
