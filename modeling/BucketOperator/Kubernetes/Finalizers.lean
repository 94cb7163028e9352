import BucketOperator.Kubernetes.Client

/-!
# Finalizers

An object with finalizers is not removed before they are gone. Lists are changed only when the
finalizer is not already present, or not already absent.
-/

namespace BucketOperator.Kubernetes

open Json

/-- The list with a finalizer appended, unless it is there. -/
def withFinalizer? (current : List String) (finalizer : String) : Option (List String) :=
  if current.contains finalizer then none else some (current ++ [finalizer])

/-- The list without a finalizer, unless it is absent. -/
def withoutFinalizer? (current : List String) (finalizer : String) : Option (List String) :=
  if current.contains finalizer then some (current.filter (· != finalizer)) else none

/-- The merge patch that replaces the finalizer list. -/
def finalizersPatch (finalizers : List String) : Json :=
  .object [("metadata", .object [("finalizers", .strings finalizers)])]

/-- A kind of namespaced objects. -/
structure Kind (α : Type) where
  collection : String → String
  read : Tree → Option α
  metadata : α → Metadata

namespace Kind

variable {α : Type} (kind : Kind α) (patience : Nat)

/-- The collection an object is in. -/
def collectionOf (object : α) : String :=
  kind.collection ((kind.metadata object).namespaceName.getD "")

/-- Replace the finalizer list of an object. -/
def patchFinalizers (object : α) (finalizers : List String) :
    Program World (Except BucketOperator.Failure Unit) := do
  let outcome ← persist patience <|
    patch kind.read .merge (kind.collectionOf object) (kind.metadata object).anyName "" ""
      (finalizersPatch finalizers)
  return outcome.map fun _ => ()

/-- Add a finalizer to an object that lacks it. -/
def addFinalizer (object : α) (finalizer : String) :
    Program World (Except BucketOperator.Failure Unit) :=
  match withFinalizer? (kind.metadata object).finalizers finalizer with
  | some finalizers => kind.patchFinalizers patience object finalizers
  | none => return .ok ()

/-- Remove a finalizer from an object that has it. -/
def removeFinalizer (object : α) (finalizer : String) :
    Program World (Except BucketOperator.Failure Unit) :=
  match withoutFinalizer? (kind.metadata object).finalizers finalizer with
  | some finalizers => kind.patchFinalizers patience object finalizers
  | none => return .ok ()

end Kind

end BucketOperator.Kubernetes
