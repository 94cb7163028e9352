import BucketOperator.Json.Printer

/-!
# Policy documents

The documents that say who may do what on AWS. They are built as JSON values and printed once, so
names are always escaped.
-/

namespace BucketOperator.Aws.Policy

def version : Json := .string "2012-10-17"

/-- The resource names of a bucket and of everything in it. -/
def bucketResources (partition bucket : String) : List String :=
  [s!"arn:{partition}:s3:::{bucket}", s!"arn:{partition}:s3:::{bucket}/*"]

/-- A document with statements. -/
def document (statements : List Json) : String :=
  Json.render (.object [("Statement", .array statements), ("Version", version)])

/-- The policy of a bucket: every request made without TLS is denied. -/
def forBucket (partition bucket : String) : String :=
  document [
    .object [
      ("Action", .string "s3:*"),
      ("Condition", .object [("Bool", .object [("aws:SecureTransport", .string "false")])]),
      ("Effect", .string "Deny"),
      ("Principal", .string "*"),
      ("Resource", .strings (bucketResources partition bucket)),
      ("Sid", .string "EnforceSSLOnly")]]

/-- The subject of a service account in its tokens. -/
def subject (namespaceName name : String) : String :=
  s!"system:serviceaccount:{namespaceName}:{name}"

/-- The trust policy of a role: one service account may assume it, by a token of the issuer at
`domain`. -/
def forTrust (partition accountId domain namespaceName name : String) : String :=
  document [
    .object [
      ("Action", .string "sts:AssumeRoleWithWebIdentity"),
      ("Condition", .object [
        ("StringEquals", .object [(domain ++ ":sub", .string (subject namespaceName name))])]),
      ("Effect", .string "Allow"),
      ("Principal", .object [
        ("Federated", .string s!"arn:{partition}:iam::{accountId}:oidc-provider/{domain}")])]]

/-- The policy of a role: access to the objects of its buckets. Empty names are skipped. -/
def forRole (partition bucket : String) (extraBuckets : List String) : String :=
  let names := (bucket :: extraBuckets).filter (· ≠ "")
  document [
    .object [
      ("Action", .strings ["s3:ListBucket", "s3:PutObject", "s3:GetObject", "s3:DeleteObject"]),
      ("Effect", .string "Allow"),
      ("Resource", .strings (names.flatMap (bucketResources partition)))],
    .object [
      ("Action", .strings
        ["s3:GetAccessPoint", "s3:GetAccountPublicAccessBlock", "s3:ListAccessPoints"]),
      ("Effect", .string "Allow"),
      ("Resource", .string "*")]]

end BucketOperator.Aws.Policy
