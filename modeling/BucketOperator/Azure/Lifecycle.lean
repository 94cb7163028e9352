import BucketOperator.Azure.Api
import BucketOperator.Azure.Naming

/-!
# Expiration of blobs

An account has at most one management policy. One rule of it, known by its name, is the
operator's; all others are carried over as they are.
-/

namespace BucketOperator.Azure.Lifecycle

/-- The name of the operator's rule. -/
def ruleName : String := "ExpirationLogging"

/-- The rule that deletes block blobs some days after they were last modified. -/
def expirationRule (days : Int32) : Json :=
  .object [
    ("definition", .object [
      ("actions", .object [
        ("baseBlob", .object [
          ("delete", .object [("daysAfterModificationGreaterThan", .int days.toInt)])])]),
      ("filters", .object [("blobTypes", .strings ["blockBlob"])])]),
    ("enabled", .bool true),
    ("name", .string ruleName),
    ("type", .string "Lifecycle")]

/-- Whether a rule is the operator's. -/
def isOwned (rule : Json) : Bool := (rule.get? "name").bind Json.string? == some ruleName

/-- The rules of a management policy. -/
def policyRules (policy : Json) : List Json :=
  ((policy.path? ["properties", "policy", "rules"]).bind Json.array?).getD []

/-- The rules without the operator's. -/
def withoutExpiration (rules : List Json) : List Json := rules.filter fun rule => !isOwned rule

/-- The rules with the operator's set to a number of days. -/
def withExpiration (rules : List Json) (days : Int32) : List Json :=
  withoutExpiration rules ++ [expirationRule days]

/-- The body of a management policy. -/
def policyBody (rules : List Json) : Json :=
  .object [("properties", .object [("policy", .object [("rules", .array rules)])])]

/-- The rules in place, if there is a policy. -/
def currentRules? (ids : ResourceIds) : Steps (Option (List Json)) :=
  Steps.orAbsent
    ((fun policy => some (policyRules policy)) <$>
      Steps.get ids.managementPolicy storageVersion) none

/-- Replace the rules. -/
def putRules (ids : ResourceIds) (rules : List Json) : Steps Unit := do
  let _ ← Steps.put ids.managementPolicy storageVersion (policyBody rules)

/-- Set the expiration to a number of days, or remove it. A policy left without rules is deleted. -/
def apply (ids : ResourceIds) (days : Option Int32) : Steps Unit := do
  match days, ← currentRules? ids with
  | some days, rules => putRules ids (withExpiration (rules.getD []) days)
  | none, none => return ()
  | none, some rules =>
    if rules.any isOwned then
      match withoutExpiration rules with
      | [] => Steps.orAbsent (Steps.delete ids.managementPolicy storageVersion) ()
      | remaining => putRules ids remaining

end BucketOperator.Azure.Lifecycle
