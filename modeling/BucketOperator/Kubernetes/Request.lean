import BucketOperator.Json.Parser

/-!
# Requests to the Kubernetes API

What is asked of the API and what comes back. Objects are addressed by the path of their
collection and their name.
-/

namespace BucketOperator.Kubernetes

open Json

/-- How a patch is applied: merged into the object, or applied as the full intent of a manager. -/
inductive PatchKind where
  | merge
  | apply
  deriving DecidableEq, Repr

def PatchKind.contentType : PatchKind → String
  | .merge => "application/merge-patch+json"
  | .apply => "application/apply-patch+yaml"

inductive Action where
  | get
  | patch (kind : PatchKind) (body : Json)
  | delete

def Action.method : Action → String
  | .get => "GET"
  | .patch .. => "PATCH"
  | .delete => "DELETE"

/-- A request for a target, which is a path and perhaps a query. -/
structure Request where
  action : Action
  path : String
  query : Option String

/-- A body as it comes back. -/
inductive Body where
  | json (value : Json)
  | text (content : String)

/-- The document a body holds. -/
def Body.tree? : Body → Option Tree
  | .json value => some (.ofJson value)
  | .text content => Tree.parse? content

/-- What comes back of a request. -/
inductive Reply where
  | unreachable
  | answered (status : Nat) (body : Body)

/-! ### Targets -/

/-- Whether a character may stand in the path of a target. -/
def isPathChar (c : Char) : Bool :=
  let n := c.toNat
  n == 0x21 || n == 0x22 || (0x24 ≤ n && n ≤ 0x3B) || n == 0x3D || (0x40 ≤ n && n ≤ 0x5F)
    || (0x61 ≤ n && n ≤ 0x7E) || 0x7F ≤ n

/-- Whether a character may stand in the query of a target. -/
def isQueryChar (c : Char) : Bool :=
  let n := c.toNat
  n == 0x21 || (0x24 ≤ n && n ≤ 0x3B) || n == 0x3D || 0x3F ≤ n

/-- Cut a target into path and query; what follows a number sign is dropped. -/
def splitTarget? (target : String) : Option (String × Option String) := do
  let (path, rest) := (target.toList.takeWhile (· != '#')).span (· != '?')
  guard (path.all isPathChar)
  match rest with
  | [] => return (String.ofList path, none)
  | _ :: query =>
    guard (query.all isQueryChar)
    return (String.ofList path, some (String.ofList query))

/-- The request for a target, if the target is well formed. -/
def Request.of? (action : Action) (target : String) : Option Request :=
  (splitTarget? target).map fun (path, query) => ⟨action, path, query⟩

/-! ### Collections -/

/-- The path of a collection: an API group, which is empty for the core group, a version, a
namespace for what is namespaced, and the plural of the kind. -/
def collection (group version : String) (namespaceName : Option String) (plural : String) :
    String :=
  (if group.isEmpty then s!"/api/{version}/" else s!"/apis/{group}/{version}/") ++
    (match namespaceName with
      | some n => s!"namespaces/{n}/"
      | none => "") ++ plural

def buckets (namespaceName : String) : String :=
  collection "objectstorage.giantswarm.io" "v1alpha1" (some namespaceName) "buckets"

def secrets (namespaceName : String) : String := collection "" "v1" (some namespaceName) "secrets"

def configMaps (namespaceName : String) : String :=
  collection "" "v1" (some namespaceName) "configmaps"

/-- The group of the records that describe clusters. -/
def infrastructureGroup : String := "infrastructure.cluster.x-k8s.io"

def awsClusters (namespaceName : String) : String :=
  collection infrastructureGroup "v1beta2" (some namespaceName) "awsclusters"

def awsRoleIdentities : String :=
  collection infrastructureGroup "v1beta2" none "awsclusterroleidentities"

def azureClusters (namespaceName : String) : String :=
  collection infrastructureGroup "v1beta1" (some namespaceName) "azureclusters"

def azureIdentities (namespaceName : String) : String :=
  collection infrastructureGroup "v1beta1" (some namespaceName) "azureclusteridentities"

end BucketOperator.Kubernetes
