import BucketOperator.Json.Reading
import BucketOperator.Timestamp

/-!
# Object metadata

Every object of the control plane carries metadata. The operator uses five of its fields; the
others are only checked to be well formed.
-/

namespace BucketOperator.Kubernetes

open Json

/-- The metadata the operator uses. -/
structure Metadata where
  name : Option String
  generateName : Option String
  namespaceName : Option String
  finalizerList : Option (List String)
  deletionTimestamp : Option String
  deriving DecidableEq, Inhabited

namespace Metadata

def empty : Metadata := ⟨none, none, none, none, none⟩

/-- The finalizers; a missing list holds none. -/
def finalizers (m : Metadata) : List String := m.finalizerList.getD []

/-- The name, or the generated one's stem, or nothing. -/
def anyName (m : Metadata) : String :=
  m.name.getD (m.generateName.getD "")

/-- The fields of object metadata. -/
def fieldNames : List String :=
  ["annotations", "creationTimestamp", "deletionGracePeriodSeconds", "deletionTimestamp",
    "finalizers", "generateName", "generation", "labels", "managedFields", "name", "namespace",
    "ownerReferences", "resourceVersion", "selfLink", "uid"]

/-- A timestamp text. -/
def readTimestamp (tree : Tree) : Option String := do
  let text ← tree.readString
  guard (Timestamp.isValid text)
  return text

/-- An owner reference, only checked. -/
def readOwner (tree : Tree) : Option Unit := do
  let fields ← tree.openFields?
    ["apiVersion", "blockOwnerDeletion", "controller", "kind", "name", "uid"]
  let _ ← ["apiVersion", "kind", "name", "uid"].mapM fun n => fields.optionalAll n Tree.readString
  let _ ← ["blockOwnerDeletion", "controller"].mapM fun n => fields.optionalAll n Tree.readBool
  return ()

/-- A record of which manager owns which fields, only checked. -/
def readManagedFields (tree : Tree) : Option Unit := do
  let fields ← tree.openFields?
    ["apiVersion", "fieldsType", "fieldsV1", "manager", "operation", "subresource", "time"]
  let _ ← ["apiVersion", "fieldsType", "manager", "operation", "subresource"].mapM
    fun n => fields.optionalAll n Tree.readString
  let _ ← fields.optionalAll "fieldsV1" Tree.value?
  let _ ← fields.optionalAll "time" readTimestamp
  return ()

def read (tree : Tree) : Option Metadata := do
  let fields ← tree.openFields? fieldNames
  let _ ← ["annotations", "labels"].mapM
    fun n => fields.optionalAll n (Tree.readMap Tree.readString)
  let _ ← ["deletionGracePeriodSeconds", "generation"].mapM
    fun n => fields.optionalAll n Tree.readInt64
  let _ ← ["resourceVersion", "selfLink", "uid"].mapM fun n => fields.optionalAll n Tree.readString
  let _ ← fields.optionalAll "creationTimestamp" readTimestamp
  let _ ← fields.optionalAll "managedFields" (Tree.readList readManagedFields)
  let _ ← fields.optionalAll "ownerReferences" (Tree.readList readOwner)
  return {
    name := ← fields.optionalAll "name" Tree.readString
    generateName := ← fields.optionalAll "generateName" Tree.readString
    namespaceName := ← fields.optionalAll "namespace" Tree.readString
    finalizerList := ← fields.optionalAll "finalizers" (Tree.readList Tree.readString)
    deletionTimestamp := ← fields.optionalAll "deletionTimestamp" readTimestamp }

end Metadata

end BucketOperator.Kubernetes
