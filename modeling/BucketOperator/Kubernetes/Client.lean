import BucketOperator.Kubernetes.Objects
import BucketOperator.Kubernetes.Status
import BucketOperator.Retry

/-!
# Using the Kubernetes API

Reading, patching and deleting single objects. An absent object is an answer of reading, not a
failure. Calls that fail for a passing reason can be repeated.
-/

namespace BucketOperator.Kubernetes

open Json

variable {α : Type}

/-- What a reply amounts to. A failure reports the code of the status in its body, or its own when
there is no status. -/
def Reply.outcome : Reply → Except Failure Body
  | .unreachable => .error .service
  | .answered status body =>
    if 400 ≤ status && status < 600 then
      match body.tree?.bind Status.read with
      | some s => .error (.status s.code (s.reason == "NotFound"))
      | none => .error (.status status false)
    else .ok body

/-- Read the object in a body. -/
def Body.decode (read : Tree → Option α) (body : Body) : Except Failure α :=
  match body.tree?.bind read with
  | some a => .ok a
  | none => .error .undecodable

/-- Send a request for the object `name` of a collection; an object must have a name. -/
def send (action : Action) (collection name tail : String) : Program World (Except Failure Body) :=
  if name = "" then return .error .other
  else
    match Request.of? action (collection ++ "/" ++ name ++ tail) with
    | none => return .error .other
    | some request => do return (← World.kubernetes request).outcome

/-- Read an object; an absent one is answered as such. -/
def get? (read : Tree → Option α) (collection name : String) :
    Program World (Except Failure (Option α)) := do
  match ← send .get collection name "" with
  | .ok body => return (body.decode read).map some
  | .error (.status _ true) => return .ok none
  | .error failure => return .error failure

/-- Patch an object, or a part of it named by `part`, and read the result. -/
def patch (read : Tree → Option α) (kind : PatchKind) (collection name part query : String)
    (body : Json) : Program World (Except Failure α) := do
  match ← send (.patch kind body) collection name (part ++ "?" ++ query) with
  | .ok body => return body.decode read
  | .error failure => return .error failure

/-- Read what a deletion answers: the object, or a status. -/
def readDeleted (read : Tree → Option α) (tree : Tree) : Option Unit := do
  let value ← tree.json?
  if value.get? "kind" == some (.string "Status") then
    let _ ← Status.read tree
  else
    let _ ← read tree

/-- Delete an object. -/
def delete (read : Tree → Option α) (collection name : String) :
    Program World (Except Failure Unit) := do
  match ← send .delete collection name "?" with
  | .ok body => return body.decode (readDeleted read)
  | .error failure => return .error failure

/-! ### Repeated calls -/

/-- Whether a failure may pass: throttling, errors of the server, and missing answers. -/
def Failure.isPassing : Failure → Bool
  | .status code _ => code == 429 || (500 ≤ code && code < 600)
  | .service => true
  | .undecodable => false
  | .other => false

/-- Whether an outcome asks for another attempt. -/
def asksAgain : Except Failure α → Bool
  | .ok _ => false
  | .error failure => failure.isPassing

/-- A failure of the control plane. -/
def asControlPlane (outcome : Except Failure α) : Except BucketOperator.Failure α :=
  outcome.mapError .controlPlane

/-- Repeat a call while its failure may pass. -/
def persist (patience : Nat) (attempt : Program World (Except Failure α)) :
    Program World (Except BucketOperator.Failure α) := do
  return asControlPlane
    (← Retry.inWorld attempt (Retry.persist patience asksAgain Backoff.forCalls))

end BucketOperator.Kubernetes
