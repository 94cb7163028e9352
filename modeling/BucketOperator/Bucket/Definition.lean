import BucketOperator.CustomResource.Definition
import BucketOperator.Yaml.Printer

/-!
# The definition of buckets

Bucket records are custom resources. Their definition is a document for the API server, and a
manifest is that document as a file.
-/

namespace BucketOperator.Bucket

open CustomResource

def tagSchema : Schema :=
  .object (.describe "A single bucket tag.") ["key", "value"] [
    ("key", .string (.describe "Tag key.")),
    ("value", .string (.describe "Tag value."))]

def accessRoleSchema : Schema :=
  .object (Label.describe "Access role that workloads can assume to reach the bucket.").orNull
    ["roleName", "serviceAccountName", "serviceAccountNamespace"] [
    ("extraBucketNames",
      .array (.describe
        "Additional buckets the role may access, for workloads spanning several buckets.")
        (.string .none)),
    ("roleName", .string (.describe "Name of the role to create in the cloud account.")),
    ("serviceAccountName",
      .string (.describe "Name of the service account allowed to assume the role.")),
    ("serviceAccountNamespace",
      .string (.describe "Namespace of the service account allowed to assume the role."))]

def expirationDescription : String :=
  "Expiration policy applied to every object in the bucket.\n\n" ++
  "When absent, any previously configured expiration rule is removed."

def expirationPolicySchema : Schema :=
  .object (Label.describe expirationDescription).orNull
    ["days"] [("days", .int32 (.describe "Number of days after which objects expire."))]

def nameDescription : String :=
  "Name of the bucket to create on the provider.\n\n" ++
  "On Azure this is also the container name; the storage account name is\nderived from it."

def specSchema : Schema :=
  .object (.describe "Desired state of a cloud object-storage bucket.") ["name"] [
    ("accessRole", accessRoleSchema),
    ("expirationPolicy", expirationPolicySchema),
    ("name", .string (.describe nameDescription)),
    ("reclaimPolicy",
      .choice
        { Label.describe "What happens to the provider bucket when this resource is deleted." with
          default := some (.string "Retain") }
        ["Retain", "Delete"]),
    ("tags",
      .array
        (.describe "Tags added to the bucket. Entries with an empty key or value are ignored.")
        tagSchema)]

def statusSchema : Schema :=
  .object (Label.describe "Observed state of a [`Bucket`].").orNull [] [
    ("bucketAzureRoleAssignmentID",
      .string (Label.describe "Azure role assignment bound to the container, if any.").orNull),
    ("bucketID", .string (Label.describe "Provider identifier of the bucket.").orNull),
    ("bucketReady",
      .boolean
        { Label.describe "True once every provider step of the last reconciliation succeeded." with
          default := some (.bool false) })]

def bucketDescription : String :=
  "Bucket is a cloud object-storage bucket (S3 bucket or Azure storage account and blob " ++
  "container) with an optional access role bound to a workload service account."

/-- The definition of bucket records. -/
def definition : Definition where
  group := "objectstorage.giantswarm.io"
  version := "v1alpha1"
  kind := "Bucket"
  singular := "bucket"
  plural := "buckets"
  shortNames := ["bkt"]
  columns := [
    ⟨"Bucket", "string", some "Provider bucket name", ".spec.name"⟩,
    ⟨"Ready", "boolean", some "Whether the bucket is provisioned", ".status.bucketReady"⟩,
    ⟨"Reclaim", "string", none, ".spec.reclaimPolicy"⟩,
    ⟨"Age", "date", none, ".metadata.creationTimestamp"⟩]
  schema :=
    .object
      { Label.describe bucketDescription with title := some "Bucket" }
      ["spec"] [("spec", specSchema), ("status", statusSchema)]

/-! ### The manifest -/

/-- Where the manifest is written. -/
def manifestFolder : String := "deploy/crds"

def manifestFile : String := "buckets.crd.yaml"

/-- The lines of the manifest: a header, then the document. -/
def manifest : List String :=
  ["# Copyright (c) 2025 Erick Bourgeois, firestoned",
    "# SPDX-License-Identifier: MIT",
    "#",
    "# This file is AUTO-GENERATED from src/crd.rs",
    "# DO NOT EDIT MANUALLY - Run `cargo run --bin crdgen` to regenerate",
    "#"] ++ Yaml.lines definition.document

/-- What is reported once the manifest is written. -/
def manifestReport : List String :=
  ["  ✓ Generated " ++ manifestFolder ++ "/" ++ manifestFile,
    "✓ Generated CRD YAML in " ++ manifestFolder ++ "/",
    "  Deploy with: kubectl apply -f " ++ manifestFolder ++ "/"]

end BucketOperator.Bucket
