import BucketOperator.Cluster.Resolver
import BucketOperator.Proofs.Cluster.Fields
import BucketOperator.Proofs.Kubernetes.Asking

/-!
# Resolving an Azure cluster

A cluster is resolved from what the control plane tells of it: its record, the record of the
identity it refers to, perhaps a client secret, and the values it was rendered from. If one of these
cannot be read, or lacks something that is needed, there is a failure and no context. Whether the
context is private is what the values say, and public is only what says so or says nothing.
-/

namespace BucketOperator

open Kubernetes (ConfigMap Secret readRecord)
open Program (ensures_bind ensures_steps_bind)

/-- Whether a failure is one of resolving a cluster: something is wrong with a record, or with the
control plane. -/
def Failure.isOfResolving : Failure → Bool
  | .resolution .. => true
  | .controlPlane _ => true
  | _ => false

namespace Cluster

/-! ### Fields of records -/

/-- There is nothing at a path of a record, or null, or a map of strings. -/
def HasStrings (record : Json) (path : List String) : Prop :=
  ∀ value, record.path? path = some value →
    value = .null ∨ ∃ members, value = .object members ∧ ∀ e ∈ members, ∃ s, e.2 = .string s

/-- The namespace of the identity that a record refers to, which may be left out. -/
def identityNamespace (cluster : ManagementCluster) (record : Json) : String :=
  ((nestedString? record ["spec", "identityRef", "namespace"]).filter (· ≠ "")).getD
    cluster.namespaceName

/-- The fields of an identity record, by its type. -/
inductive HasFields (identity : Json) : Azure.IdentitySpec → Prop where
  | managed {clientId : String} (htype : HasText identity ["spec", "type"] "UserAssignedMSI")
      (hclient : HasText identity ["spec", "clientID"] clientId) :
      HasFields identity (.managed clientId)
  | servicePrincipal {tenantId clientId secretName secretNamespace : String}
      (htype : HasText identity ["spec", "type"] "ManualServicePrincipal")
      (htenant : HasText identity ["spec", "tenantID"] tenantId)
      (hclient : HasText identity ["spec", "clientID"] clientId)
      (hname : HasText identity ["spec", "clientSecret", "name"] secretName)
      (hnamespace : HasText identity ["spec", "clientSecret", "namespace"] secretNamespace) :
      HasFields identity (.servicePrincipal tenantId clientId secretName secretNamespace)
  | workload {tenantId clientId : String}
      (htype : HasText identity ["spec", "type"] "WorkloadIdentity")
      (htenant : HasText identity ["spec", "tenantID"] tenantId)
      (hclient : HasText identity ["spec", "clientID"] clientId) :
      HasFields identity (.workload tenantId clientId)

/-- A secret holds a client secret, which is a text and not empty. -/
def HasClientSecret (secret : Secret) : Prop :=
  ∃ data bytes text, secret.data = some data ∧ data.get? "clientSecret" = some bytes ∧
    String.fromUTF8? bytes = some text ∧ text ≠ ""

/-- The values in a config map. -/
def valuesText? (configMap : ConfigMap) : Option String := configMap.data.bind (·.get? "values")

/-- What values say about the network of a cluster. -/
def networkMode? (values : Yaml.Value) : Option String :=
  (values.path? ["global", "connectivity", "network", "mode"]).bind Yaml.Value.string?

/-- A success of some kind, or a failure of resolving. -/
def ReadsAs {α : Type} (Q : α → Prop) : Except Failure α → Prop
  | .ok a => Q a
  | .error failure => failure.isOfResolving = true

section Fields

variable {α β : Type} {Q : α → Prop} {cluster : ManagementCluster} {name description : String}
  {record identity : Json} {path : List String}

lemma ReadsAs.bind {R : β → Prop} {x : Except Failure α} {f : α → Except Failure β}
    (h : ReadsAs Q x) (hf : ∀ a, Q a → ReadsAs R (f a)) : ReadsAs R (x >>= f) := by
  cases x with
  | error failure => exact h
  | ok a => exact hf a h

lemma ReadsAs.mono {R : α → Prop} {x : Except Failure α} (h : ReadsAs Q x)
    (hR : ∀ a, Q a → R a) : ReadsAs R x := by
  cases x with
  | error failure => exact h
  | ok a => exact hR a h

lemma Gives.readsAs {cluster : String} {x : Except Failure α} (h : Gives cluster Q x) :
    ReadsAs Q x := by
  cases x with
  | ok a => exact (h.ok_iff a).1 rfl
  | error failure =>
    obtain ⟨reason, rfl⟩ := h.of_error failure rfl
    rfl

lemma readsAs_requiredString :
    ReadsAs (HasText record path) (requiredString name description record path) :=
  gives_requiredString.readsAs

lemma HasTags.hasStrings {tags : StringMap String} (h : HasTags record path tags) :
    HasStrings record path := by
  intro value hvalue
  rcases h with h | h | ⟨entries, h⟩
  · cases hvalue.symm.trans h
  · exact .inl (Option.some.inj (hvalue.symm.trans h))
  · refine .inr ⟨_, Option.some.inj (hvalue.symm.trans h), ?_⟩
    intro e he
    obtain ⟨entry, -, rfl⟩ := List.mem_map.1 he
    exact ⟨entry.2, rfl⟩

lemma readsAs_nestedStringMap :
    ReadsAs (fun _ => HasStrings record path) (nestedStringMap name description record path) :=
  gives_nestedStringMap.readsAs.mono fun _ h => h.hasStrings

lemma readsAs_identityRef :
    ReadsAs (fun r => HasText record ["spec", "identityRef", "name"] r.1 ∧
      r.2 = identityNamespace cluster record) (Azure.identityRef cluster record) := by
  unfold Azure.identityRef
  split
  next text htext =>
    obtain ⟨htext, hne⟩ := Option.filter_eq_some_iff.1 htext
    exact ⟨⟨htext, by simpa using hne⟩, rfl⟩
  · rfl

lemma readsAs_identitySpec :
    ReadsAs (HasFields identity) (Azure.identitySpec cluster description identity) := by
  refine readsAs_requiredString.bind fun type htype => ?_
  split
  next heq =>
    subst heq
    exact readsAs_requiredString.bind fun _ hclient => .managed htype hclient
  · split
    next heq =>
      subst heq
      refine readsAs_requiredString.bind fun _ htenant => ?_
      refine readsAs_requiredString.bind fun _ hclient => ?_
      refine readsAs_requiredString.bind fun _ hname => ?_
      exact readsAs_requiredString.bind fun _ hnamespace =>
        .servicePrincipal htype htenant hclient hname hnamespace
    · split
      next heq =>
        subst heq
        refine readsAs_requiredString.bind fun _ htenant => ?_
        exact readsAs_requiredString.bind fun _ hclient => .workload htype htenant hclient
      · rfl

lemma readsAs_clientSecret {secret : Secret} :
    ReadsAs (fun _ => HasClientSecret secret) (Azure.clientSecret cluster description secret) := by
  simp only [Azure.clientSecret]
  split
  next text htext =>
    obtain ⟨hutf8, hne⟩ := Option.filter_eq_some_iff.1 htext
    obtain ⟨bytes, hbytes, hutf8⟩ := Option.bind_eq_some_iff.1 hutf8
    obtain ⟨data, hdata, hbytes⟩ := Option.bind_eq_some_iff.1 hbytes
    exact ⟨data, bytes, text, hdata, hbytes, hutf8, by simpa using hne⟩
  · rfl

/-- A context has what is required of the record, and is as private as it is told. -/
lemma readsAs_contextOf {credentials : AzureIdentity} {isPrivate : Bool} :
    ReadsAs (fun context => (∃ text, HasText record ["spec", "subscriptionID"] text) ∧
      (∃ text, HasText record ["spec", "resourceGroup"] text) ∧
      HasStrings record ["spec", "additionalTags"] ∧ context.isPrivate = isPrivate)
      (Azure.contextOf cluster record credentials isPrivate) := by
  refine readsAs_requiredString.bind fun subscription hsubscription => ?_
  refine readsAs_requiredString.bind fun group hgroup => ?_
  exact readsAs_nestedStringMap.bind fun tags htags =>
    ⟨⟨subscription, hsubscription⟩, ⟨group, hgroup⟩, htags, rfl⟩

end Fields

/-! ### What the control plane tells -/

/-- What the control plane answers to each request. -/
abbrev Content := Kubernetes.Request → Kubernetes.Reply

/-- What is read of an object, which must have a name. -/
def Content.get? {α : Type} (content : Content) (read : Json.Tree → Option α)
    (collection name : String) : Except Kubernetes.Failure (Option α) :=
  if name = "" then .error .other
  else
    match Kubernetes.Request.of? .get (collection ++ "/" ++ name) with
    | none => .error .other
    | some request => Kubernetes.told read (content request).outcome

/-- The values that a cluster was rendered from. -/
def Content.values? (content : Content) (cluster : ManagementCluster) :
    Except Kubernetes.Failure (Option ConfigMap) :=
  content.get? ConfigMap.read (Kubernetes.configMaps cluster.namespaceName)
    (cluster.name ++ "-cluster-values")

/-- There is what the fields of an identity refer to. -/
inductive HasSecret (content : Content) : Azure.IdentitySpec → Prop where
  | managed (clientId : String) : HasSecret content (.managed clientId)
  | workload (tenantId clientId : String) : HasSecret content (.workload tenantId clientId)
  | servicePrincipal {tenantId clientId secretName secretNamespace : String} {secret : Secret}
      (hsecret : content.get? Secret.read (Kubernetes.secrets secretNamespace) secretName =
        .ok (some secret)) (htext : HasClientSecret secret) :
      HasSecret content (.servicePrincipal tenantId clientId secretName secretNamespace)

/-- Everything that a cluster is resolved from can be read, and has what is needed. -/
structure IsDescribed (content : Content) (cluster : ManagementCluster) (record identity : Json)
    (name : String) (spec : Azure.IdentitySpec) (values : Option ConfigMap) : Prop where
  recordRead : content.get? readRecord (Kubernetes.azureClusters cluster.namespaceName)
    cluster.name = .ok (some record)
  reference : HasText record ["spec", "identityRef", "name"] name
  identityRead : content.get? readRecord
    (Kubernetes.azureIdentities (identityNamespace cluster record)) name = .ok (some identity)
  fields : HasFields identity spec
  secret : HasSecret content spec
  valuesRead : content.values? cluster = .ok values
  parsed : ∀ text, values.bind valuesText? = some text →
    ∃ document, Yaml.parse? text = some document
  subscription : ∃ text, HasText record ["spec", "subscriptionID"] text
  group : ∃ text, HasText record ["spec", "resourceGroup"] text
  tags : HasStrings record ["spec", "additionalTags"]

/-- A cluster can be resolved from what the control plane tells. -/
def IsResolvable (content : Content) (cluster : ManagementCluster) : Prop :=
  ∃ record identity name spec values, IsDescribed content cluster record identity name spec values

/-- The values say that the network of a cluster is private. -/
def IsPrivate (content : Content) (cluster : ManagementCluster) : Prop :=
  ∃ configMap text document, content.values? cluster = .ok (some configMap) ∧
    valuesText? configMap = some text ∧ Yaml.parse? text = some document ∧
    networkMode? document = some "private"

/-- There are no values, or they say something else about the network, or nothing. -/
def IsPublic (content : Content) (cluster : ManagementCluster) : Prop :=
  content.values? cluster = .ok none ∨ ∃ configMap, content.values? cluster = .ok (some configMap) ∧
    (valuesText? configMap = none ∨ ∃ text document, valuesText? configMap = some text ∧
      Yaml.parse? text = some document ∧ networkMode? document ≠ some "private")

/-- A context of a cluster that can be resolved is as private as the values say. -/
structure IsSound (content : Content) (cluster : ManagementCluster) (context : AzureContext) :
    Prop where
  resolvable : IsResolvable content cluster
  ofPrivate : context.isPrivate = true → IsPrivate content cluster
  ofPublic : context.isPrivate = false → IsPublic content cluster

lemma IsPrivate.not_isPublic {content : Content} {cluster : ManagementCluster}
    (h : IsPrivate content cluster) : ¬ IsPublic content cluster := by
  obtain ⟨configMap, text, document, hvalues, htext, hdocument, hmode⟩ := h
  rintro (hnone | ⟨_, hvalues', hother⟩)
  · cases hvalues.symm.trans hnone
  · cases hvalues.symm.trans hvalues'
    rcases hother with hnone | ⟨_, _, htext', hdocument', hmode'⟩
    · cases htext.symm.trans hnone
    · cases htext.symm.trans htext'
      cases hdocument.symm.trans hdocument'
      exact hmode' hmode

/-- Whether a cluster is private is what its values say. -/
lemma readsAs_isPrivate {content : Content} {cluster : ManagementCluster}
    {values : Option ConfigMap} (h : content.values? cluster = .ok values) :
    ReadsAs (fun isPrivate =>
      (∀ text, values.bind valuesText? = some text → ∃ document, Yaml.parse? text = some document) ∧
      (isPrivate = true → IsPrivate content cluster) ∧
      (isPrivate = false → IsPublic content cluster)) (Azure.isPrivate cluster values) := by
  have htexts : (values.bind (·.data)).bind (·.get? "values") = values.bind valuesText? := by
    cases values <;> rfl
  rw [Azure.isPrivate, htexts]
  cases htext : values.bind valuesText? with
  | none =>
    refine ⟨nofun, nofun, fun _ => ?_⟩
    cases values with
    | none => exact .inl h
    | some configMap => exact .inr ⟨configMap, h, .inl htext⟩
  | some text =>
    simp only
    cases hdocument : Yaml.parse? text with
    | none => rfl
    | some document =>
      obtain ⟨configMap, rfl, htext⟩ := Option.bind_eq_some_iff.1 htext
      refine ⟨?_, ?_, ?_⟩
      · rintro _ ⟨⟩
        exact ⟨document, hdocument⟩
      · intro hprivate
        exact ⟨configMap, text, document, h, htext, hdocument, beq_iff_eq.1 hprivate⟩
      · intro hpublic
        have hmode : networkMode? document ≠ some "private" := beq_eq_false_iff_ne.1 hpublic
        exact .inr ⟨configMap, h, .inr ⟨text, document, htext, hdocument, hmode⟩⟩

/-! ### Resolving from what is told -/

/-- The control plane answers as its content has it. -/
def Shows (content : Content) : Exchange World → Prop
  | ⟨.kubernetes request, (reply : Kubernetes.Reply)⟩ => reply = content request
  | _ => True

/-- Told the content of the control plane, a step comes to a success of some kind, or to a failure
of resolving, and asks nobody else. -/
def Resolves {α : Type} (content : Content) (Q : α → Prop) (x : Resolving α) : Prop :=
  x.run.Ensures (fun _ c r _ => Shows content ⟨c, r⟩) (fun _ c => c.IsOffline)
    (fun _ o => ∃ r, o = some r ∧ ReadsAs Q r) ()

section Steps

variable {content : Content} {cluster : ManagementCluster} {α β : Type} {Q : α → Prop}

lemma Resolves.bind {R : β → Prop} {x : Resolving α} {f : α → Resolving β}
    (h : Resolves content Q x) (hf : ∀ a, Q a → Resolves content R (f a)) :
    Resolves content R (x >>= f) := by
  rw [Resolves, ensures_steps_bind]
  refine h.mono (fun _ _ h => h) ?_
  rintro s o ⟨failure | a, rfl, hr⟩
  · exact ⟨_, rfl, hr⟩
  · exact hf a hr

lemma resolves_ofExcept {outcome : Except Failure α} (h : ReadsAs Q outcome) :
    Resolves content Q (liftM outcome) := by
  cases outcome <;> exact ⟨_, rfl, h⟩

/-- What is asked of the control plane is what its content has. -/
lemma resolves_ask_get {read : Json.Tree → Option α} {collection name : String} :
    Resolves content (fun found => content.get? read collection name = .ok found)
      (ask (Kubernetes.get? read collection name)) := by
  have hget : (Kubernetes.get? read collection name).Ensures
      (fun _ c r _ => Shows content ⟨c, r⟩) (fun _ c => c.IsOffline)
      (fun _ o => o = some (content.get? read collection name)) () := by
    rw [Kubernetes.get?_eq, Kubernetes.send, Content.get?, String.append_empty]
    split
    · rfl
    · cases Kubernetes.Request.of? .get (collection ++ "/" ++ name) with
      | none => rfl
      | some request =>
        refine ⟨trivial, ?_⟩
        rintro _ ⟨⟩ ⟨⟩
        rfl
  refine ensures_bind.2 (hget.mono (fun _ _ h => h) ?_)
  rintro s _ rfl
  cases content.get? read collection name with
  | error failure => exact ⟨_, rfl, rfl⟩
  | ok found => exact ⟨_, rfl, rfl⟩

lemma resolves_fetchRecord {collection kind name : String} {namespaceName : Option String} :
    Resolves content (fun record => content.get? readRecord collection name = .ok (some record))
      (fetchRecord cluster collection kind namespaceName name) := by
  refine resolves_ask_get.bind fun found hfound => ?_
  cases found with
  | none => exact ⟨_, rfl, rfl⟩
  | some record => exact ⟨_, rfl, hfound⟩

lemma resolves_resolveIdentity {description : String} {spec : Azure.IdentitySpec} :
    Resolves content (fun _ => HasSecret content spec)
      (resolveIdentity cluster description spec) := by
  cases spec with
  | managed clientId => exact ⟨_, rfl, .managed clientId⟩
  | workload tenantId clientId => exact ⟨_, rfl, .workload tenantId clientId⟩
  | servicePrincipal tenantId clientId secretName secretNamespace =>
    refine Resolves.bind (Q := fun _ => HasSecret content
      (.servicePrincipal tenantId clientId secretName secretNamespace)) ?_ fun _ hsecret =>
        ⟨_, rfl, hsecret⟩
    refine resolves_ask_get.bind fun found hfound => ?_
    cases found with
    | none => exact ⟨_, rfl, rfl⟩
    | some secret =>
      exact resolves_ofExcept (readsAs_clientSecret.mono fun _ htext =>
        .servicePrincipal hfound htext)

lemma resolves_resolveAzure :
    Resolves content (IsSound content cluster) (resolveAzure cluster) := by
  refine resolves_fetchRecord.bind fun record hrecord => ?_
  refine (resolves_ofExcept readsAs_identityRef).bind ?_
  rintro ⟨name, namespaceName⟩ ⟨hname, rfl⟩
  refine resolves_fetchRecord.bind fun identity hidentity => ?_
  refine (resolves_ofExcept readsAs_identitySpec).bind fun spec hfields => ?_
  refine resolves_resolveIdentity.bind fun credentials hsecret => ?_
  refine resolves_ask_get.bind fun values hvalues => ?_
  refine (resolves_ofExcept (readsAs_isPrivate hvalues)).bind ?_
  rintro isPrivate ⟨hparsed, hprivate, hpublic⟩
  refine resolves_ofExcept (readsAs_contextOf.mono ?_)
  rintro context ⟨hsubscription, hgroup, htags, rfl⟩
  exact ⟨⟨record, identity, name, spec, values, hrecord, hname, hidentity, hfields, hsecret,
    hvalues, hparsed, hsubscription, hgroup, htags⟩, hprivate, hpublic⟩

/-- Told the content of the control plane, an Azure cluster is resolved only if everything that is
needed can be read, and then it is as private as its values say. -/
theorem ensures_resolve (hazure : cluster.provider = .azure) :
    (resolve cluster).Ensures (fun _ c r _ => Shows content ⟨c, r⟩) (fun _ c => c.IsOffline)
      (fun _ o => ∃ r, o = some r ∧ ReadsAs (fun context => ∃ azure, context = .azure azure ∧
        IsSound content cluster azure) r) () := by
  rw [resolve, hazure]
  refine ensures_bind.2 (resolves_resolveAzure.mono (fun _ _ h => h) ?_)
  rintro s o ⟨failure | context, rfl, hr⟩
  · exact ⟨_, rfl, hr⟩
  · exact ⟨_, rfl, context, rfl, hr⟩

end Steps

end Cluster

end BucketOperator
