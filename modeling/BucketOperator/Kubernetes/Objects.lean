import BucketOperator.Base64
import BucketOperator.Json.Printer
import BucketOperator.Kubernetes.Metadata

/-!
# Objects of the Kubernetes API

Config maps, secrets, and records of any kind. A config map or secret may leave its version and
kind out, but must not give others.
-/

namespace BucketOperator.Kubernetes

open Json

/-- Every occurrence of a field has a given text. -/
def hasOnly (fields : Tree.Fields) (name text : String) : Bool :=
  (fields.filter fun e => e.1 == name).all fun e => e.2.readString == some text

/-- Bytes written in base 64. -/
def readBytes (tree : Tree) : Option ByteArray := tree.readString.bind Base64.decode?

structure ConfigMap where
  data : Option (StringMap String)

def ConfigMap.read (tree : Tree) : Option ConfigMap := do
  let fields ← tree.openFields?
    ["apiVersion", "kind", "binaryData", "data", "immutable", "metadata"]
  guard (hasOnly fields "apiVersion" "v1" && hasOnly fields "kind" "ConfigMap")
  let _ ← fields.optionalAll "binaryData" (Tree.readMap readBytes)
  let _ ← fields.optionalAll "immutable" Tree.readBool
  let _ ← fields.optionalAll "metadata" Metadata.read
  return { data := ← fields.optionalAll "data" (Tree.readMap Tree.readString) }

structure Secret where
  metadata : Metadata
  data : Option (StringMap ByteArray)

def Secret.read (tree : Tree) : Option Secret := do
  let fields ← tree.openFields?
    ["apiVersion", "kind", "data", "immutable", "metadata", "stringData", "type"]
  guard (hasOnly fields "apiVersion" "v1" && hasOnly fields "kind" "Secret")
  let _ ← fields.optionalAll "immutable" Tree.readBool
  let _ ← fields.optionalAll "stringData" (Tree.readMap Tree.readString)
  let _ ← fields.optionalAll "type" Tree.readString
  let metadata ← fields.optionalAll "metadata" Metadata.read
  return {
    metadata := metadata.getD .empty
    data := ← fields.optionalAll "data" (Tree.readMap readBytes) }

/-- A record of any kind: an object whose metadata, given at most once, is well formed. -/
def readRecord (tree : Tree) : Option Json := do
  let fields ← tree.closedFields? ["metadata"]
  guard (tree matches .object _)
  let _ ← fields.orElse "metadata" .empty Metadata.read
  tree.json?

end BucketOperator.Kubernetes
