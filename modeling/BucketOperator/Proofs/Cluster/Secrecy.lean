import BucketOperator.Proofs.Cluster.Resolving
import BucketOperator.Proofs.Kubernetes.Coupling
import BucketOperator.Azure.Credential

/-!
# Resolving with another client secret

Two runs that are told different client secrets resolve an Azure cluster by the same requests, and
to contexts that differ in the secret alone. Such contexts are shown in the same way.
-/

namespace BucketOperator

open Azure (authorityHost tokenEndpoint)
open Kubernetes (RecordsAlike WasRead readRecord)
open Program (Coupled)

/-! ### What may differ -/

/-- The record of an identity was read that is a service principal of a tenant. -/
def NamesTenant (u : Trace World) (tenantId : String) : Prop :=
  ∃ namespaceName name record clientId secretName secretNamespace,
    WasRead readRecord (Kubernetes.azureIdentities namespaceName) name u record ∧
    Cluster.HasFields record (.servicePrincipal tenantId clientId secretName secretNamespace)

/-- Two requests post the same form to the token endpoint of a tenant, but for the client secret. -/
inductive PostsSecret (tenantId : String) : Http.Request → Http.Request → Prop where
  | intro {url : Url} (before after : List (String × String)) (secret secret' : String)
      (h : tokenEndpoint authorityHost tenantId = .ok url) :
    PostsSecret tenantId
      ⟨.post, url, [], some (.form (before ++ ("client_secret", secret) :: after))⟩
      ⟨.post, url, [], some (.form (before ++ ("client_secret", secret') :: after))⟩

namespace World

/-- Two calls are the same, but for the client secret in a form that is posted to the token endpoint
of a tenant. -/
inductive Call.Alike (IsNamed : String → Prop) : World.Call → World.Call → Prop where
  | same (c : World.Call) : Call.Alike IsNamed c c
  | token {tenantId : String} {request request' : Http.Request} (hnamed : IsNamed tenantId)
      (h : PostsSecret tenantId request request') :
    Call.Alike IsNamed (.http request) (.http request')

/-- The answers to two calls are the same, but for a client secret that the control plane shows. -/
inductive ToldAlike : Exchange World → Exchange World → Prop where
  | same (e : Exchange World) : ToldAlike e e
  | kubernetes (request : Kubernetes.Request) {reply reply' : Kubernetes.Reply}
      (h : reply.Alike reply') :
    ToldAlike ⟨.kubernetes request, reply⟩ ⟨.kubernetes request, reply'⟩
  | http (request request' : Http.Request) (reply : Http.Reply) :
    ToldAlike ⟨.http request, reply⟩ ⟨.http request', reply⟩

/-- Runs that are told different client secrets. The secret may be posted to the tenant of an
identity that was read. -/
def secrecy : Comparison World where
  calls u := Call.Alike (NamesTenant u)
  exchanges := ToldAlike

lemma Call.Alike.mono {IsNamed IsNamed' : String → Prop} {c c' : World.Call}
    (h : c.Alike IsNamed c') (hnamed : ∀ tenantId, IsNamed tenantId → IsNamed' tenantId) :
    c.Alike IsNamed' c' := by
  cases h with
  | same => exact .same _
  | token h hposts => exact .token (hnamed _ h) hposts

lemma ofSecret_secrecy : secrecy.OfSecret where
  same _ := .same
  shown := by
    intro request reply reply' h
    cases h with
    | same => exact .refl reply
    | kubernetes _ h => exact h
  told := by
    intro c r r' hc h
    cases h with
    | same => rfl
    | kubernetes _ h => exact hc.elim
    | http => rfl

end World

open World (secrecy ofSecret_secrecy)

lemma NamesTenant.append {u : Trace World} {tenantId : String} (h : NamesTenant u tenantId)
    (v : Trace World) : NamesTenant (u ++ v) tenantId := by
  obtain ⟨namespaceName, name, record, clientId, secretName, secretNamespace, hread, hfields⟩ := h
  obtain ⟨request, reply, hmem, htold⟩ := hread
  exact ⟨namespaceName, name, record, clientId, secretName, secretNamespace,
    ⟨request, reply, List.mem_append_left v hmem, htold⟩, hfields⟩

/-! ### Contexts -/

/-- Two identities are the same, but for the client secret of a service principal. -/
inductive AzureIdentity.Alike (IsNamed : String → Prop) : AzureIdentity → AzureIdentity → Prop where
  | same (identity : AzureIdentity) : AzureIdentity.Alike IsNamed identity identity
  | servicePrincipal {tenantId : String} (clientId secret secret' : String)
      (h : IsNamed tenantId) :
    AzureIdentity.Alike IsNamed (.servicePrincipal tenantId clientId secret)
      (.servicePrincipal tenantId clientId secret')

/-- Two contexts are the same, but for the client secret of their identity. -/
inductive AzureContext.Alike (IsNamed : String → Prop) (context : AzureContext) :
    AzureContext → Prop where
  | intro {identity : AzureIdentity} (h : context.identity.Alike IsNamed identity) :
    AzureContext.Alike IsNamed context { context with identity }

/-- Two contexts of an Azure cluster are the same, but for such a secret. -/
inductive ClusterContext.Alike (IsNamed : String → Prop) :
    ClusterContext → ClusterContext → Prop where
  | azure {context context' : AzureContext} (h : context.Alike IsNamed context') :
    ClusterContext.Alike IsNamed (.azure context) (.azure context')

section Contexts

variable {IsNamed IsNamed' : String → Prop}

lemma AzureIdentity.Alike.mono {identity identity' : AzureIdentity}
    (h : identity.Alike IsNamed identity')
    (hnamed : ∀ tenantId, IsNamed tenantId → IsNamed' tenantId) :
    identity.Alike IsNamed' identity' := by
  cases h with
  | same => exact .same _
  | servicePrincipal clientId secret secret' h =>
    exact .servicePrincipal clientId secret secret' (hnamed _ h)

lemma AzureContext.Alike.mono {context context' : AzureContext} (h : context.Alike IsNamed context')
    (hnamed : ∀ tenantId, IsNamed tenantId → IsNamed' tenantId) :
    context.Alike IsNamed' context' := by
  obtain ⟨h⟩ := h
  exact .intro (h.mono hnamed)

lemma ClusterContext.Alike.mono {context context' : ClusterContext}
    (h : context.Alike IsNamed context')
    (hnamed : ∀ tenantId, IsNamed tenantId → IsNamed' tenantId) :
    context.Alike IsNamed' context' := by
  obtain ⟨h⟩ := h
  exact .azure (h.mono hnamed)

lemma AzureIdentity.Alike.describe_eq {identity identity' : AzureIdentity}
    (h : identity.Alike IsNamed identity') : identity.describe = identity'.describe := by
  cases h <;> rfl

/-- Contexts that differ in a client secret are shown in the same way. -/
lemma ClusterContext.Alike.describe_eq {context context' : ClusterContext}
    (h : context.Alike IsNamed context') : context.describe = context'.describe := by
  cases h with
  | azure h =>
    cases h with
    | intro h =>
      rw [ClusterContext.describe, ClusterContext.describe, AzureContext.describe, h.describe_eq]
      rfl

end Contexts

namespace Cluster

/-! ### Records -/

section Records

variable {cluster : ManagementCluster} {record record' : Json} {name description : String}
  {rest : List String}

/-- What is outside the data of a record is the same. -/
lemma path?_eq (h : RecordsAlike record record') :
    record.path? ("spec" :: rest) = record'.path? ("spec" :: rest) := by
  rw [Json.path?, Json.path?, h "spec" (by decide)]

lemma nestedString?_eq (h : RecordsAlike record record') :
    nestedString? record ("spec" :: rest) = nestedString? record' ("spec" :: rest) := by
  rw [nestedString?, nestedString?, path?_eq h]

lemma requiredString_eq (h : RecordsAlike record record') :
    requiredString name description record ("spec" :: rest) =
      requiredString name description record' ("spec" :: rest) := by
  rw [requiredString, requiredString, nestedString?_eq h]

lemma identityRef_eq (h : RecordsAlike record record') :
    Azure.identityRef cluster record = Azure.identityRef cluster record' := by
  rw [Azure.identityRef, Azure.identityRef, nestedString?_eq h, nestedString?_eq h]

lemma identitySpec_eq (h : RecordsAlike record record') :
    Azure.identitySpec cluster description record =
      Azure.identitySpec cluster description record' := by
  simp only [Azure.identitySpec, requiredString_eq h]

/-- The contexts that alike records give, for alike identities. -/
lemma agree_contextOf {IsNamed : String → Prop} {identity identity' : AzureIdentity}
    {isPrivate : Bool} (h : RecordsAlike record record')
    (hidentity : identity.Alike IsNamed identity') :
    Agree (AzureContext.Alike IsNamed) (Azure.contextOf cluster record identity isPrivate)
      (Azure.contextOf cluster record' identity' isPrivate) := by
  simp only [Azure.contextOf, requiredString_eq h, nestedStringMap, path?_eq h]
  refine agree_bind_self fun subscriptionId => ?_
  refine agree_bind_self fun resourceGroup => ?_
  exact agree_bind_self fun tags => .ok (.intro hidentity)

end Records

/-! ### Secrets and values -/

section Values

variable {cluster : ManagementCluster} {description : String} {u : Trace World}

/-- Secrets that differ in a client secret that is text give one both times. -/
lemma agree_clientSecret {secret secret' : Kubernetes.Secret} (h : secret.Alike secret') :
    Agree (fun _ _ => True) (Azure.clientSecret cluster description secret)
      (Azure.clientSecret cluster description secret') := by
  have hbytes : Option.Rel Kubernetes.BytesAlike (secret.data.bind (·.get? "clientSecret"))
      (secret'.data.bind (·.get? "clientSecret")) := rel_bind h.data fun _ _ hdata => hdata.there
  have hread : ∀ {bytes : ByteArray} {text : String}, String.fromUTF8? bytes = some text →
      text ≠ "" → ((some bytes).bind String.fromUTF8?).filter (· ≠ "") = some text := by
    intro bytes text htext hne
    rw [Option.bind_some, htext, Option.filter_some, if_pos (decide_eq_true hne)]
  simp only [Azure.clientSecret]
  generalize secret.data.bind (·.get? "clientSecret") = bytes?,
    secret'.data.bind (·.get? "clientSecret") = bytes?' at hbytes ⊢
  cases hbytes with
  | none => exact .error _
  | some h =>
    rcases h with rfl | ⟨⟨text, htext, hne⟩, text', htext', hne'⟩
    · exact agree_refl (fun _ => trivial) _
    · rw [hread htext hne, hread htext' hne']
      exact .ok trivial

lemma isPrivate_eq {values values' : Option Kubernetes.ConfigMap}
    (h : Option.Rel Kubernetes.ConfigMap.Alike values values') :
    Azure.isPrivate cluster values = Azure.isPrivate cluster values' := by
  have htext : (values.bind (·.data)).bind (·.get? "values") =
      (values'.bind (·.data)).bind (·.get? "values") := by
    refine rel_eq_iff.1 (rel_bind (P := StringMap.Alike "clientSecret" fun _ _ => True)
      (rel_bind h fun _ _ hdata => hdata) fun _ _ hdata => ?_)
    exact rel_eq_iff.2 (hdata.others "values" (by decide))
  rw [Azure.isPrivate, Azure.isPrivate, htext]

end Values

/-! ### Resolving -/

section Resolving

variable {cluster : ManagementCluster} {description collection kind name : String}
  {namespaceName : Option String} {u : Trace World}

/-- A step of resolving comes to the same failure both times, or to related results. -/
def ResolvesAlike {α : Type} (R : Trace World → α → α → Prop) (u : Trace World)
    (x : Resolving α) : Prop :=
  Coupled secrecy (fun v => Agree (R v)) u x.run x.run

lemma coupled_ask_get {α : Type} {S : α → α → Prop} {read : Json.Tree → Option α}
    (hread : Kubernetes.ReadsAlike read S) :
    ResolvesAlike (fun v found found' => Option.Rel S found found' ∧
        ∀ a, found = some a → WasRead read collection name v a) u
      (ask (Kubernetes.get? read collection name)) := by
  refine (Kubernetes.coupled_get ofSecret_secrecy hread).bind ?_
  rintro v found found' ⟨h, hfound⟩
  cases h with
  | error failure => exact .error _
  | ok h => exact .ok ⟨h, fun a ha => hfound a (congrArg Except.ok ha)⟩

/-- The same record is fetched both times, but for its data. -/
lemma coupled_fetchRecord :
    ResolvesAlike (fun v record record' => RecordsAlike record record' ∧
        WasRead readRecord collection name v record) u
      (fetchRecord cluster collection kind namespaceName name) := by
  refine Coupled.steps_bind (coupled_ask_get Kubernetes.readsAlike_record) ?_
  rintro v found found' ⟨h, hread⟩
  cases h with
  | none => exact .error _
  | some h => exact .ok ⟨h, hread _ rfl⟩

lemma coupled_fetchClientSecret {namespaceName : String} :
    ResolvesAlike (fun _ _ _ => True) u
      (fetchClientSecret cluster description namespaceName name) := by
  refine Coupled.steps_bind (coupled_ask_get Kubernetes.readsAlike_secret) ?_
  rintro v found found' ⟨h, -⟩
  cases h with
  | none => exact .error _
  | some h => exact agree_clientSecret h

/-- Two outcomes that agree, as steps. -/
lemma coupled_ofExcept {α : Type} (R : Trace World → α → α → Prop)
    {outcome outcome' : Except Failure α} (h : Agree (R u) outcome outcome') :
    Coupled secrecy (fun v => Agree (R v)) u (liftM outcome : Resolving α).run
      (liftM outcome' : Resolving α).run := by
  cases h with
  | error failure => exact .error failure
  | ok h => exact .ok h

lemma coupled_of_eq {α : Type} {outcome outcome' : Except Failure α} (h : outcome = outcome') :
    Coupled secrecy (fun _ => Agree Eq) u (liftM outcome : Resolving α).run
      (liftM outcome' : Resolving α).run :=
  coupled_ofExcept (fun _ => Eq) (agree_eq_iff.2 h)

/-- The fields of an identity are the same, and are those of its record. -/
lemma coupled_identitySpec {identity identity' : Json} (h : RecordsAlike identity identity') :
    Coupled secrecy (fun _ => Agree fun spec spec' => spec = spec' ∧ HasFields identity spec) u
      (liftM (Azure.identitySpec cluster description identity) : Resolving Azure.IdentitySpec).run
      (liftM (Azure.identitySpec cluster description identity') :
        Resolving Azure.IdentitySpec).run := by
  refine coupled_ofExcept (fun _ spec spec' => spec = spec' ∧ HasFields identity spec) ?_
  rw [← identitySpec_eq h]
  have hfields : ReadsAs (HasFields identity) (Azure.identitySpec cluster description identity) :=
    readsAs_identitySpec
  generalize Azure.identitySpec cluster description identity = outcome at hfields ⊢
  cases outcome with
  | error failure => exact .error failure
  | ok spec => exact .ok ⟨rfl, hfields⟩

/-- The same identity is resolved both times, but for its client secret. -/
lemma coupled_resolveIdentity {spec : Azure.IdentitySpec}
    (h : ∀ tenantId clientId secretName secretNamespace,
      spec = .servicePrincipal tenantId clientId secretName secretNamespace →
        NamesTenant u tenantId) :
    ResolvesAlike (fun v => AzureIdentity.Alike (NamesTenant v)) u
      (resolveIdentity cluster description spec) := by
  cases spec with
  | managed clientId => exact .ok (.same _)
  | workload tenantId clientId => exact .ok (.same _)
  | servicePrincipal tenantId clientId secretName secretNamespace =>
    refine Coupled.steps_bind coupled_fetchClientSecret fun v secret secret' _ => ?_
    exact .ok (.servicePrincipal clientId secret secret' ((h _ _ _ _ rfl).append v))

/-- An Azure cluster is resolved to contexts that differ in a client secret alone. -/
lemma coupled_resolveAzure :
    ResolvesAlike (fun v => AzureContext.Alike (NamesTenant v)) u (resolveAzure cluster) := by
  refine Coupled.steps_bind coupled_fetchRecord ?_
  rintro v record record' ⟨hrecord, -⟩
  refine Coupled.steps_bind (coupled_of_eq (identityRef_eq hrecord)) ?_
  rintro v ⟨name, namespaceName⟩ _ rfl
  refine Coupled.steps_bind coupled_fetchRecord ?_
  rintro v identity identity' ⟨hidentity, hread⟩
  refine Coupled.steps_bind (coupled_identitySpec hidentity) ?_
  rintro v spec _ ⟨rfl, hfields⟩
  refine Coupled.steps_bind (coupled_resolveIdentity ?_) ?_
  · rintro tenantId clientId secretName secretNamespace rfl
    exact NamesTenant.append
      ⟨namespaceName, name, identity, clientId, secretName, secretNamespace, hread, hfields⟩ v
  intro v credentials credentials' hcredentials
  refine Coupled.steps_bind (coupled_ask_get Kubernetes.readsAlike_configMap) ?_
  rintro w values values' ⟨hvalues, -⟩
  refine Coupled.steps_bind (coupled_of_eq (isPrivate_eq hvalues)) ?_
  rintro w' isPrivate _ rfl
  refine coupled_ofExcept (fun v => AzureContext.Alike (NamesTenant v)) ?_
  refine agree_contextOf hrecord (hcredentials.mono fun _ h => ?_)
  exact (h.append w).append w'

/-- The same of the cluster it is. -/
theorem coupled_resolve (hazure : cluster.provider = .azure) :
    Coupled secrecy (fun v => Agree (ClusterContext.Alike (NamesTenant v))) u (resolve cluster)
      (resolve cluster) := by
  rw [resolve, hazure]
  refine Coupled.bind coupled_resolveAzure fun v outcome outcome' h => ?_
  cases h with
  | error failure => exact .error failure
  | ok h => exact .ok (.azure h)

end Resolving

end Cluster

end BucketOperator
