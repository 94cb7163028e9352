import BucketOperator.Failure
import BucketOperator.Json.Value
import BucketOperator.Program

/-!
# What the Azure adapter asks for

Operations on resources by path and version, each with its final result: repeated requests and
long-running operations lie below. The adapter also writes the secret through which workloads
reach a bucket.
-/

namespace BucketOperator.Azure

inductive Call where
  | get (path version : String)
  | put (path version : String) (body : Json)
  | post (path version : String)
  | delete (path version : String)
  | applySecret (namespaceName name accountName accountKey : String)
  | deleteSecret (namespaceName name : String)

/-- What a call answers. -/
def Call.Answer : Call → Type
  | .get .. => Except Failure Json
  | .put .. => Except Failure Json
  | .post .. => Except Failure Json
  | .delete .. => Except Failure Unit
  | .applySecret .. => Except BucketOperator.Failure Unit
  | .deleteSecret .. => Except BucketOperator.Failure Unit

/-- Resource Manager and the secrets of the cluster. -/
abbrev Api : Interface := ⟨Call, Call.Answer⟩

/-- Steps on resources; the first failure ends them. -/
abbrev Steps := ExceptT Failure (Program Api)

namespace Steps

/-- Read a resource. -/
def get (path version : String) : Steps Json := ExceptT.mk (.ask (.get path version) .done)

/-- Create or replace a resource, and return it as it is stored in the end. -/
def put (path version : String) (body : Json) : Steps Json :=
  ExceptT.mk (.ask (.put path version body) .done)

/-- Invoke an action of a resource. -/
def post (path version : String) : Steps Json := ExceptT.mk (.ask (.post path version) .done)

/-- Delete a resource. -/
def delete (path version : String) : Steps Unit := ExceptT.mk (.ask (.delete path version) .done)

/-- Run steps, with `absent` for a resource that does not exist. -/
def orAbsent {α : Type} (steps : Steps α) (absent : α) : Steps α :=
  tryCatch steps fun failure => if failure.isNotFound then return absent else throw failure

end Steps

end BucketOperator.Azure
