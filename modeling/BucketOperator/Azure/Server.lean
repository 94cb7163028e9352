import BucketOperator.Http.Message
import BucketOperator.Json.Printer
import BucketOperator.StringMap

/-!
# Resource Manager as a store

A server that keeps resources by path: putting a resource replaces it, and deleting one deletes
everything below it.
-/

namespace BucketOperator.Azure.Server

/-- The stored resources by path. -/
abbrev Resources := StringMap Json

/-- An answer with a body. -/
def answered (status : Nat) (body : Json) : Http.Response := ⟨status, [], body.render⟩

/-- The answer about a resource that does not exist. -/
def absent : Http.Response :=
  answered 404 <| .object [
    ("error", .object [
      ("code", .string "ResourceNotFound"),
      ("message", .string "not found")])]

/-- Whether a path is that of a resource or below it. -/
def isWithin (path resource : String) : Bool :=
  path == resource || path.startsWith (resource ++ "/")

/-- Answer a request. -/
def answer (method : Http.Method) (path : String) (body : Json) (resources : Resources) :
    Http.Response × Resources :=
  match method, resources.get? path with
  | .put, _ => (answered 200 body, resources.insert path body)
  | .get, some resource => (answered 200 resource, resources)
  | .delete, some _ => (⟨200, [], ""⟩, resources.filter fun p _ => !isWithin p path)
  | _, _ => (absent, resources)

end BucketOperator.Azure.Server
