import BucketOperator.Proofs.Aws.Statements
import Mathlib.Data.List.Basic

/-!
# Whom a role trusts

A role is trusted to one service account, named by the subject of its tokens. The subject joins the
namespace and the name with a colon. Kubernetes allows no colon in either, so that no other account
has the same subject, whatever texts a record puts in their place.
-/

namespace BucketOperator.Aws.Policy

/-! ### Subjects -/

lemma toList_accountSubject (n m : String) : ("system:serviceaccount:" ++ n ++ ":" ++ m).toList =
    "system:serviceaccount:".toList ++ (n.toList ++ ':' :: m.toList) := by
  rw [String.toList_append, String.toList_append, String.toList_append, List.append_assoc,
    List.append_assoc]
  rfl

/-- A subject without further colons names one service account. -/
lemma accountSubject_eq_iff {namespaceName name n m : String} (hn : ':' ∉ n.toList)
    (hm : ':' ∉ m.toList) :
    "system:serviceaccount:" ++ n ++ ":" ++ m =
      "system:serviceaccount:" ++ namespaceName ++ ":" ++ name ↔ n = namespaceName ∧ m = name := by
  rw [← String.toList_inj, toList_accountSubject, toList_accountSubject, List.append_cancel_left_eq,
    List.append_cons_inj_of_notMem hn hm, String.toList_inj, String.toList_inj]
  exact ⟨fun h => ⟨h.1, h.2.2⟩, fun h => ⟨h.1, rfl, h.2⟩⟩

/-! ### The trust policy -/

/-- The resource name of the issuer of service account tokens, as IAM knows it. -/
def issuer (partition accountId domain : String) : String :=
  s!"arn:{partition}:iam::{accountId}:oidc-provider/{domain}"

/-- The condition that a token is of one subject. -/
def isSubject (domain namespaceName name : String) : Condition :=
  ⟨"StringEquals", domain ++ ":sub", ["system:serviceaccount:" ++ namespaceName ++ ":" ++ name]⟩

/-- One service account may assume a role by a token of an issuer. -/
def trusting (partition accountId domain namespaceName name : String) : Statement where
  sid := none
  effect := .allow
  principals := some (.named [("Federated", issuer partition accountId domain)])
  actions := ["sts:AssumeRoleWithWebIdentity"]
  resources := none
  conditions := [isSubject domain namespaceName name]

variable {partition accountId domain namespaceName name : String}

/-- The text of a trust policy is read as one statement. -/
lemma read?_forTrust : read? (forTrust partition accountId domain namespaceName name) =
    some [trusting partition accountId domain namespaceName name] := by
  rw [forTrust, read?_document]
  · rfl
  · refine List.forall_mem_singleton.2 ?_
    refine Json.isPlain_object ["Action", "Condition", "Effect", "Principal"] rfl (by decide) ?_
    simp only [List.forall_mem_cons]
    exact ⟨Json.isPlain_string _,
      Json.isPlain_member _ (Json.isPlain_member _ (Json.isPlain_string _)),
      Json.isPlain_string _, Json.isPlain_member _ (Json.isPlain_string _), fun _ h => nomatch h⟩

lemma isSubject_isMetBy_iff {context : String → Option String} :
    (isSubject domain namespaceName name).IsMetBy context ↔
      context (domain ++ ":sub") =
        some ("system:serviceaccount:" ++ namespaceName ++ ":" ++ name) := by
  simp [Condition.IsMetBy, isSubject]

lemma appliesTo_trusting_iff {request : Request} :
    (trusting partition accountId domain namespaceName name).AppliesTo request ↔
      request.action = "sts:AssumeRoleWithWebIdentity" ∧
      request.principal = ("Federated", issuer partition accountId domain) ∧
      request.context (domain ++ ":sub") =
        some ("system:serviceaccount:" ++ namespaceName ++ ":" ++ name) := by
  constructor
  · intro h
    obtain ⟨_, hprincipals, hprincipal⟩ := h.principal
    cases hprincipals
    exact ⟨List.mem_singleton.1 h.action, List.mem_singleton.1 hprincipal,
      isSubject_isMetBy_iff.1 (h.conditions _ (List.mem_singleton_self _))⟩
  · rintro ⟨haction, hprincipal, hcontext⟩
    exact ⟨List.mem_singleton.2 haction, ⟨_, rfl, List.mem_singleton.2 hprincipal⟩,
      List.forall_mem_singleton.2 (isSubject_isMetBy_iff.2 hcontext)⟩

/-- A role is trusted to exactly one service account, whatever the texts are. Its trust policy is
read as one statement that allows one action to one issuer under one condition. It admits just the
requests for that action with a token of the issuer about the account, and no other account has a
token that passes the condition. -/
theorem one_account_trusted (partition accountId domain namespaceName name : String) :
    read? (forTrust partition accountId domain namespaceName name) =
      some [trusting partition accountId domain namespaceName name] ∧
    (∀ request, Admit [trusting partition accountId domain namespaceName name] request ↔
      request.action = "sts:AssumeRoleWithWebIdentity" ∧
      request.principal = ("Federated", issuer partition accountId domain) ∧
      request.context (domain ++ ":sub") =
        some ("system:serviceaccount:" ++ namespaceName ++ ":" ++ name)) ∧
    ∀ n m : String, ':' ∉ n.toList → ':' ∉ m.toList → ∀ context : String → Option String,
      context (domain ++ ":sub") = some ("system:serviceaccount:" ++ n ++ ":" ++ m) →
        ((isSubject domain namespaceName name).IsMetBy context ↔ n = namespaceName ∧ m = name) := by
  refine ⟨read?_forTrust, ?_, ?_⟩
  · intro request
    rw [← appliesTo_trusting_iff]
    constructor
    · rintro ⟨⟨_, hmem, -, happlies⟩, -⟩
      cases List.mem_singleton.1 hmem
      exact happlies
    · intro happlies
      exact ⟨⟨_, List.mem_singleton_self _, rfl, happlies⟩, List.forall_mem_singleton.2 nofun⟩
  · intro n m hn hm context hcontext
    rw [isSubject_isMetBy_iff, hcontext, Option.some.injEq]
    exact accountSubject_eq_iff hn hm

end BucketOperator.Aws.Policy
