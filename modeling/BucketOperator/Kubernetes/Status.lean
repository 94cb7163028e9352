import BucketOperator.Kubernetes.Metadata

/-!
# Statuses of the Kubernetes API

How the API reports a failure: a closed record in which every field may be missing.
-/

namespace BucketOperator.Kubernetes

open Json

/-- The parts of a status that matter. -/
structure Status where
  code : Nat
  reason : String
  deriving DecidableEq, Repr, Inhabited

namespace Status

/-- Whether a request succeeded, as a name or as an object with that name and null. -/
def readSummary : Tree → Option Unit
  | .string s => s.bind check
  | .object [(key, .null)] => key.bind check
  | _ => none
where
  check (s : String) : Option Unit := guard (s == "Success" || s == "Failure")

/-- The metadata of a list. -/
def readListMeta (tree : Tree) : Option Unit := do
  let fields ← tree.openFields? ["continue", "remainingItemCount", "resourceVersion", "selfLink"]
  let _ ← ["continue", "resourceVersion", "selfLink"].mapM
    fun n => fields.optionalAll n Tree.readString
  let _ ← fields.optionalAll "remainingItemCount" Tree.readInt64
  return ()

def readCause (tree : Tree) : Option Unit := do
  let names := ["reason", "message", "field"]
  let fields ← tree.closedFields? names
  let _ ← names.mapM fun n => fields.orElse n "" Tree.readString
  return ()

def readDetails (tree : Tree) : Option Unit := do
  let names := ["name", "group", "kind", "uid"]
  let fields ← tree.closedFields? (names ++ ["causes", "retryAfterSeconds"])
  let _ ← names.mapM fun n => fields.orElse n "" Tree.readString
  let _ ← fields.orElse "causes" [] (Tree.readList readCause)
  let _ ← fields.orElse "retryAfterSeconds" 0 (Tree.readNat 32)
  return ()

/-- A status. Written as an array it must list at least its first field. -/
def read (tree : Tree) : Option Status := do
  let fields ← tree.closedFields? ["status", "code", "message", "metadata", "reason", "details"]
  guard (tree matches .object _ || 0 < fields.length)
  let _ ← fields.optional "status" readSummary
  let _ ← fields.orElse "message" "" Tree.readString
  let _ ← fields.optional "metadata" readListMeta
  let _ ← fields.optional "details" readDetails
  return {
    code := ← fields.orElse "code" 0 (Tree.readNat 16)
    reason := ← fields.orElse "reason" "" Tree.readString }

end Status

end BucketOperator.Kubernetes
