import BucketOperator.Kubernetes.Request
import BucketOperator.StringMap

/-!
# The Kubernetes API as a store

A server that keeps objects by path and answers requests as the API does. An object with
finalizers outlives its deletion: it is marked, and removed once a patch has left it without
finalizers.
-/

namespace BucketOperator.Kubernetes.Server

/-- The stored objects by path. -/
abbrev Objects := StringMap Json

/-- A status that reports a failure. -/
def failure (code : Nat) (reason : String) : Json :=
  .object [
    ("apiVersion", .string "v1"),
    ("code", .int code),
    ("kind", .string "Status"),
    ("reason", .string reason),
    ("status", .string "Failure")]

/-- A status that reports a success. -/
def success : Json :=
  .object [
    ("apiVersion", .string "v1"),
    ("kind", .string "Status"),
    ("status", .string "Success")]

/-- The answer about an object that does not exist. -/
def absent : Reply := .answered 404 (.json (failure 404 "NotFound"))

/-- Whether an object has finalizers. -/
def hasFinalizers (object : Json) : Bool :=
  match (object.path? ["metadata", "finalizers"]).bind Json.array? with
  | some (_ :: _) => true
  | _ => false

/-- Whether an object is marked for deletion. -/
def isMarked (object : Json) : Bool :=
  match object.path? ["metadata", "deletionTimestamp"] with
  | none | some .null => false
  | some _ => true

/-- When objects are marked. -/
def deletionTime : String := "2025-01-01T00:00:00Z"

/-- An object marked for deletion. -/
def mark (object : Json) : Json :=
  object.set "metadata"
    (((object.get? "metadata").getD .null).set "deletionTimestamp" (.string deletionTime))

/-- The path of an object without the part that names its status; `none` for the whole object. -/
def statusOwner? (path : String) : Option String :=
  if path.endsWith "/status" then some (path.dropEnd "/status".length).toString else none

/-- The object that a patch is for, and what is merged into it. A patch of the status touches
nothing else. -/
def patchOf (path : String) (body : Json) : String × Json :=
  match statusOwner? path with
  | some owner => (owner, .object [("status", (body.get? "status").getD .null)])
  | none => (path, body)

/-- Store an object, unless it is marked and nothing keeps it. -/
def settle (objects : Objects) (path : String) (object : Json) : Objects :=
  if isMarked object && !hasFinalizers object then objects.erase path
  else objects.insert path object

/-- What a patch merges into: an applied object need not exist yet. -/
def patchTarget? (objects : Objects) (kind : PatchKind) (path : String) : Option Json :=
  match objects.get? path, kind with
  | some object, _ => some object
  | none, .apply => some (.object [])
  | none, .merge => none

/-- Answer a patch. -/
def patch (kind : PatchKind) (path : String) (body : Json) (objects : Objects) : Reply × Objects :=
  let (path, change) := patchOf path body
  match patchTarget? objects kind path with
  | some target =>
    let merged := target.mergePatch change
    (.answered 200 (.json merged), settle objects path merged)
  | none => (absent, objects)

/-- Answer a deletion. -/
def delete (path : String) (objects : Objects) : Reply × Objects :=
  match objects.get? path with
  | none => (absent, objects)
  | some object =>
    if hasFinalizers object then
      (.answered 200 (.json (mark object)), objects.insert path (mark object))
    else (.answered 200 (.json success), objects.erase path)

/-- Answer a request. -/
def answer (request : Request) (objects : Objects) : Reply × Objects :=
  match request.action with
  | .get =>
    match objects.get? request.path with
    | some object => (.answered 200 (.json object), objects)
    | none => (absent, objects)
  | .patch kind body => patch kind request.path body objects
  | .delete => delete request.path objects

end BucketOperator.Kubernetes.Server
