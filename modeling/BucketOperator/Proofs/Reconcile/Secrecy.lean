import BucketOperator.Proofs.Azure.Origin
import BucketOperator.Proofs.Azure.Secrecy
import BucketOperator.Proofs.Reconcile.Privacy

/-!
# The client secret reaches Azure AD only

Two operators of an Azure cluster that are told different client secrets, and the same otherwise,
do the same: every request, every outcome, every failure and its text, and the way the context is
shown are the same. They differ only in the form that is posted for a token to the tenant of the
service principal.
-/

namespace BucketOperator.Reconcile

open Program (Coupled OnlyAsks StandAlike)
open World (ToldAlike secrecy ofSecret_secrecy)

/-! ### Adapters -/

/-- Adapters of an Azure cluster that differ in a client secret alone. -/
inductive Services.Alike (IsNamed : String → Prop) : Services → Services → Prop where
  | azure {context context' : AzureContext} {client client' : Azure.Client}
      (token : Option String) (hcontext : context.Alike IsNamed context')
      (hclient : client.Alike IsNamed client') :
    Services.Alike IsNamed (.azure context client token) (.azure context' client' token)

/-- The adapters that are set up so far, in both runs. -/
def AdaptersAlike (u : Trace World) : Option Services → Option Services → Prop :=
  Option.Rel (Services.Alike (NamesTenant u))

section Adapters

variable {u : Trace World} {settings : Settings} {bucket : Bucket} {x y : Option Services}
  {α : Type}

lemma AdaptersAlike.append (h : AdaptersAlike u x y) (v : Trace World) :
    AdaptersAlike (u ++ v) x y := by
  refine rel_mono h fun s s' hs => ?_
  cases hs with
  | azure token hcontext hclient =>
    exact .azure token (hcontext.mono fun _ h => h.append v) (hclient.append v)

lemma agree_services {cluster cluster' : ClusterContext} {tokenFile : Option String}
    {patience : Nat} (h : cluster.Alike (NamesTenant u) cluster') :
    Agree (Services.Alike (NamesTenant u)) (Services.of tokenFile patience cluster)
      (Services.of tokenFile patience cluster') := by
  obtain ⟨h⟩ := h
  refine (Azure.agree_credential h).bind fun credential credential' hcredential => ?_
  refine (Azure.agree_client h hcredential).bind fun client client' hclient => ?_
  exact .ok (.azure none h hclient)

/-- What does the same both times leaves the adapters as they are. -/
lemma coupled_beside {p : Program World α} (hp : Coupled secrecy (fun _ => Eq) u p p)
    (hx : AdaptersAlike u x y) :
    Coupled secrecy (fun v r r' => r.1 = r'.1 ∧ AdaptersAlike v r.2 r'.2) u
      (p.bind fun a => .done (a, x)) (p.bind fun a => .done (a, y)) :=
  hp.bind fun v _ _ hab => ⟨hab, hx.append v⟩

/-- An operation of the adapters does the same both times if it does not use the identity. -/
lemma coupled_adapter {ask : Services → Program World (Except Failure α × Services)}
    {operation : AzureContext → Azure.Operation α}
    (hask : ∀ context client token, ask (.azure context client token) =
      Services.runAzure context client token (operation context))
    (hoperation : ∀ context identity, operation { context with identity } = operation context)
    (hx : AdaptersAlike u x y) :
    Coupled secrecy (fun v r r' => r.1 = r'.1 ∧ AdaptersAlike v r.2 r'.2) u
      (withServices x ask) (withServices y ask) := by
  cases hx with
  | none => trivial
  | some hs =>
    cases hs with
    | @azure context context' client client' token hcontext hclient =>
      rw [withServices_azure (hask ..), withServices_azure (hask ..)]
      cases hcontext with
      | @intro identity hidentity =>
        rw [hoperation context identity]
        refine (Azure.coupled_operation hclient).bind ?_
        rintro v r _ rfl
        refine ⟨rfl, AdaptersAlike.append (.some ?_) v⟩
        exact .azure _ (.intro hidentity) hclient

/-- The operations on a bucket do not use the identity of the cluster. -/
lemma azureChange_identity (c : Change) (context : AzureContext) (identity : AzureIdentity) :
    Services.azureChange { context with identity } bucket c =
      Services.azureChange context bucket c := by
  cases c <;> rfl

lemma doesExist_identity (context : AzureContext) (identity : AzureIdentity) :
    Azure.Storage.doesExist { context with identity } bucket =
      Azure.Storage.doesExist context bucket := rfl

-- What the adapters ask for is told by lemmas and must not be computed.
attribute [local irreducible] Azure.Storage.doesExist Services.azureChange

/-- A call of a reconciliation that has its adapters is made in the same way. -/
lemma coupled_serve {c : Call} (hc : c.IsWork) (hx : AdaptersAlike u x y) :
    Coupled secrecy (fun v r r' => r.1 = r'.1 ∧ AdaptersAlike v r.2 r'.2) u
      (c.serve settings x) (c.serve settings y) := by
  cases c with
  | load namespaceName name => exact hc.elim
  | resolve => exact hc.elim
  | services cluster => exact hc.elim
  | addFinalizer bucket =>
    exact coupled_beside (Kubernetes.coupled_addFinalizer ofSecret_secrecy
      Kubernetes.readsAlike_bucket) hx
  | removeFinalizer bucket =>
    exact coupled_beside (Kubernetes.coupled_removeFinalizer ofSecret_secrecy
      Kubernetes.readsAlike_bucket rfl) hx
  | patchStatus bucket status =>
    exact coupled_beside (Bucket.coupled_patchStatus ofSecret_secrecy) hx
  | doesExist bucket => exact coupled_adapter (fun _ _ _ => rfl) doesExist_identity hx
  | change change bucket =>
    exact coupled_adapter (fun _ _ _ => rfl) (azureChange_identity change) hx
  | clock =>
    exact coupled_beside
      (ofSecret_secrecy.coupled (p := World.clock) ⟨trivial, fun _ => trivial⟩) hx
  | record event =>
    exact coupled_beside
      (ofSecret_secrecy.coupled (p := World.record event) ⟨trivial, fun _ => trivial⟩) hx

end Adapters

/-! ### Reconciliations -/

section Runs

variable {u : Trace World} {settings : Settings} {bucket : Bucket} {namespaceName name : String}

/-- With contexts that differ in a client secret alone, a record is handled in the same way. -/
lemma coupled_equip {cluster cluster' : ClusterContext}
    (h : cluster.Alike (NamesTenant u) cluster') :
    Coupled secrecy (fun _ r r' => r.1 = r'.1) u (equip settings bucket cluster)
      (equip settings bucket cluster') := by
  have hservices : Agree (Services.Alike (NamesTenant u))
      (Services.of settings.tokenFile settings.patience cluster)
      (Services.of settings.tokenFile settings.patience cluster') := agree_services h
  have hprovider : cluster.provider = cluster'.provider := by
    cases h
    rfl
  rw [equip, equip, hprovider]
  generalize Services.of settings.tokenFile settings.patience cluster = adapters?,
    Services.of settings.tokenFile settings.patience cluster' = adapters?' at hservices ⊢
  cases hservices with
  | error failure => rfl
  | ok hservices =>
    have hwork : (if bucket.isBeingDeleted then release cluster'.provider bucket
        else converge cluster'.provider bucket).run.OnlyAsks Call.IsWork := by
      split
      · exact onlyAsks_release
      · exact onlyAsks_converge
    exact (hwork.coupled_interpret (fun _ _ _ _ hc hx => coupled_serve hc hx)
      (.some hservices)).mono fun _ _ _ h => h.1

lemma coupled_attend (hazure : settings.cluster.provider = .azure) :
    Coupled secrecy (fun _ r r' => r.1 = r'.1) u (attend settings bucket)
      (attend settings bucket) := by
  refine (Cluster.coupled_resolve hazure).bind fun v outcome outcome' h => ?_
  cases h with
  | error failure => rfl
  | ok h => exact coupled_equip h

lemma coupled_reconcile (hazure : settings.cluster.provider = .azure) :
    Coupled secrecy (fun _ r r' => r.1 = r'.1) u
      ((reconcile namespaceName name).run.interpret (Call.serve settings) none)
      ((reconcile namespaceName name).run.interpret (Call.serve settings) none) := by
  rw [interpret_reconcile]
  refine (Bucket.coupled_load ofSecret_secrecy).bind ?_
  rintro v (failure | _ | bucket) _ rfl
  · rfl
  · rfl
  · exact coupled_attend hazure

/-- A reconciliation comes to the same outcome both times. -/
lemma coupled_run (hazure : settings.cluster.provider = .azure) :
    Coupled secrecy (fun _ => Eq) u (run settings namespaceName name)
      (run settings namespaceName name) := by
  rw [run_eq]
  refine ⟨.same _, ?_⟩
  rintro (start : Nat) (start' : Nat) hstart
  cases ofSecret_secrecy.told .clock start start' trivial hstart
  refine (coupled_reconcile hazure).bind ?_
  rintro v r r' h
  rw [finish, finish, h]
  exact ofSecret_secrecy.coupled ⟨trivial, fun _ => ⟨trivial, fun _ => trivial⟩⟩

end Runs

/-! ### Sequences of reconciliations -/

/-- Records are reconciled one after the other. -/
def runAll (settings : Settings) :
    List (String × String) → Program World (List (Except Failure Outcome))
  | [] => .done []
  | (namespaceName, name) :: rest =>
    (run settings namespaceName name).bind fun outcome =>
      (runAll settings rest).bind fun outcomes => .done (outcome :: outcomes)

/-- The cluster is resolved, and then records are reconciled. -/
def operate (settings : Settings) (records : List (String × String)) :
    Program World (Except Failure ClusterContext × List (Except Failure Outcome)) :=
  (Cluster.resolve settings.cluster).bind fun resolved =>
    (runAll settings records).bind fun outcomes => .done (resolved, outcomes)

/-- Two results are the same, but for a client secret in the context, which is not shown. -/
structure ResultsAlike (u : Trace World)
    (r r' : Except Failure ClusterContext × List (Except Failure Outcome)) : Prop where
  resolved : Agree (fun context context' => context.Alike (NamesTenant u) context' ∧
    context.describe = context'.describe) r.1 r'.1
  outcomes : r.2 = r'.2

/-- Calls that are the same, but for a client secret in a form for Azure AD, are answered the same,
but for a client secret that the control plane shows. -/
def AnsweredAlike (e e' : Exchange World) : Prop :=
  e.call.Alike (fun _ => True) e'.call → ToldAlike e e'

/-- A request to Azure AD. -/
def IsForDirectory (c : World.Call) : Prop :=
  ∃ request, c = .http request ∧ request.url.origin = Azure.authorityUrl.origin

section Sequences

variable {u : Trace World} {settings : Settings} {records : List (String × String)}

lemma coupled_runAll (hazure : settings.cluster.provider = .azure) :
    Coupled secrecy (fun _ => Eq) u (runAll settings records) (runAll settings records) := by
  induction records generalizing u with
  | nil => rfl
  | cons record rest ih =>
    obtain ⟨namespaceName, name⟩ := record
    refine (coupled_run hazure).bind ?_
    rintro v outcome _ rfl
    refine ih.bind ?_
    rintro w outcomes _ rfl
    rfl

lemma coupled_operate (hazure : settings.cluster.provider = .azure) :
    Coupled secrecy ResultsAlike u (operate settings records) (operate settings records) := by
  refine (Cluster.coupled_resolve hazure).bind fun v resolved resolved' h => ?_
  refine (coupled_runAll hazure).bind ?_
  rintro w outcomes _ rfl
  refine ⟨h.mono fun context context' hcontext => ⟨?_, hcontext.describe_eq⟩, rfl⟩
  exact hcontext.mono fun _ hnamed => hnamed.append w

/-- Calls that differ in a client secret are for Azure AD. -/
lemma isForDirectory_of_ne {IsNamed : String → Prop} {c c' : World.Call} (h : c.Alike IsNamed c')
    (hne : c ≠ c') : IsForDirectory c ∧ IsForDirectory c' := by
  cases h with
  | same => exact absurd rfl hne
  | @token tenantId _ _ _ h =>
    cases h with
    | @intro url before after secret secret' hurl =>
      obtain ⟨url', hurl', horigin⟩ := Azure.exists_tokenEndpoint_origin Azure.parse_authorityHost
        (by decide) (by decide +kernel) tenantId
      cases hurl.symm.trans hurl'
      exact ⟨⟨_, rfl, horigin⟩, _, rfl, horigin⟩

/-- Two operators of an Azure cluster that are told different client secrets, neither of them empty,
and otherwise the same for the same requests: at every point of their runs they ask the same, but
for the client secret in a form that is posted to the token endpoint of the tenant of an identity
that was read before, which is a request to Azure AD. They stand alike then: they ask the same next,
or both were cut, or both have come to the same outcomes, and either to the same failure to resolve
the cluster or to contexts that differ in the secret alone and are shown in the same way. -/
theorem secret_reaches_directory_only {settings : Settings} {records : List (String × String)}
    {t t' : Trace World}
    {q q' : Program World (Except Failure ClusterContext × List (Except Failure Outcome))}
    (hazure : settings.cluster.provider = .azure) (hrun : (operate settings records).After t q)
    (hrun' : (operate settings records).After t' q') (htold : List.Forall₂ AnsweredAlike t t') :
    (∀ (i : Nat) (e e' : Exchange World), t[i]? = some e → t'[i]? = some e' →
      e.call.Alike (NamesTenant (t.take i)) e'.call ∧
      (e.call ≠ e'.call → IsForDirectory e.call ∧ IsForDirectory e'.call)) ∧
    StandAlike secrecy ResultsAlike t q q' := by
  have hcoupled : Coupled secrecy ResultsAlike [] (operate settings records)
      (operate settings records) := coupled_operate hazure
  have htold : List.Forall₂ (fun e e' => (∃ v, secrecy.calls v e.call e'.call) →
      secrecy.exchanges e e') t t' := by
    refine htold.imp fun e e' h => ?_
    rintro ⟨v, hcalls⟩
    exact h (hcalls.mono fun _ _ => trivial)
  obtain ⟨hasked, hstand⟩ := hcoupled.along hrun hrun' htold
  refine ⟨fun i e e' hi hi' => ?_, hstand.standAlike⟩
  obtain ⟨hcalls, -⟩ := hasked i e e' hi hi'
  exact ⟨hcalls, isForDirectory_of_ne hcalls⟩

end Sequences

/-! ### A service principal -/

/-- An operator on a cluster whose identity is a service principal. -/
def entrusted : Settings where
  cluster :=
    { name := "alba"
      namespaceName := "org"
      baseDomain := "example.com"
      provider := .azure
      region := "westeurope" }
  tokenFile := none
  patience := 1

/-- What the control plane knows besides the client secret. -/
def entrustedObjects : List (String × Json) := [
  (Kubernetes.buckets "monitoring" ++ "/logs", .object [
    ("metadata", .object [
      ("finalizers", .strings [Bucket.finalizer]),
      ("name", .string "logs"),
      ("namespace", .string "monitoring")]),
    ("spec", .object [("name", .string "logs")])]),
  (Kubernetes.azureClusters "org" ++ "/alba", .object [
    ("metadata", .object []),
    ("spec", .object [
      ("identityRef", .object [("name", .string "operator")]),
      ("resourceGroup", .string "alba"),
      ("subscriptionID", .string "subscription")])]),
  (Kubernetes.azureIdentities "org" ++ "/operator", .object [
    ("metadata", .object []),
    ("spec", .object [
      ("clientID", .string "client"),
      ("clientSecret", .object [("name", .string "operator"), ("namespace", .string "org")]),
      ("tenantID", .string "tenant"),
      ("type", .string "ManualServicePrincipal")])]),
  (Kubernetes.configMaps "org" ++ "/alba-cluster-values", .object [("data", .object [])])]

/-- What it shows of them, and of a client secret that is written so. -/
def entrustedReply (encoded : String) (request : Kubernetes.Request) : Kubernetes.Reply :=
  if request.path = Kubernetes.secrets "org" ++ "/operator" then
    .answered 200 (.json (.object [("data", .object [("clientSecret", .string encoded)])]))
  else
    match entrustedObjects.lookup request.path with
    | some document => .answered 200 (.json document)
    | none => .unreachable

/-- A token is granted, but nothing is there and nothing can be put in place. -/
def grudging (request : Http.Request) : Http.Response :=
  match request.method with
  | .post => ⟨200, [], "\x7b\"access_token\":\"token\"\x7d"⟩
  | .get => ⟨404, [], ""⟩
  | _ => ⟨400, [], ""⟩

/-- All answers, with such a client secret. -/
def entrustedReplies (encoded : String) : (c : World.Call) → c.Answer
  | .kubernetes request => entrustedReply encoded request
  | .http request => some (grudging request)
  | .s3 .. => .error .dispatch
  | .iam .. => .error .dispatch
  | .sleep _ => ()
  | .clock => (0 : Nat)
  | .readFile _ => .error ""
  | .record _ => ()

/-- The client secret in the form that a request posts. -/
def postedSecret? : World.Call → Option String
  | .http request =>
    match request.payload with
    | some (.form fields) => fields.lookup "client_secret"
    | _ => none
  | _ => none

lemma toldAlike_replies {encoded encoded' : String} {IsNamed : String → Prop} {c c' : World.Call}
    (h : Kubernetes.IsClientSecret (.string encoded))
    (h' : Kubernetes.IsClientSecret (.string encoded')) (halike : c.Alike IsNamed c') :
    ToldAlike ⟨c, entrustedReplies encoded c⟩ ⟨c', entrustedReplies encoded' c'⟩ := by
  cases halike with
  | same c =>
    cases c with
    | kubernetes request =>
      refine .kubernetes request ?_
      simp only [entrustedReplies, entrustedReply]
      split
      · refine .answered 200 (.some (.object (.cons (.inr ⟨rfl, rfl, ?_⟩) .nil)))
        exact .object (.cons (.inr ⟨rfl, rfl, h, h'⟩) .nil)
      · exact .refl _
    | _ => exact .same _
  | token _ h =>
    cases h
    exact .http _ _ _

lemma answeredAlike_replies {settings : Settings} {encoded encoded' : String}
    {records : List (String × String)} (hazure : settings.cluster.provider = .azure)
    (h : Kubernetes.IsClientSecret (.string encoded))
    (h' : Kubernetes.IsClientSecret (.string encoded')) :
    List.Forall₂ AnsweredAlike ((operate settings records).answered (entrustedReplies encoded))
      ((operate settings records).answered (entrustedReplies encoded')) := by
  have hcoupled : Coupled secrecy ResultsAlike [] (operate settings records)
      (operate settings records) := coupled_operate hazure
  have htold : List.Forall₂ ToldAlike
      ((operate settings records).answered (entrustedReplies encoded))
      ((operate settings records).answered (entrustedReplies encoded')) :=
    hcoupled.forall₂_answered fun _ _ _ halike => toldAlike_replies h h' halike
  refine List.Forall₂.imp ?_ htold
  intro e e' he _
  exact he

lemma isClientSecret_of_decodes {encoded : String} (text : String)
    (h : (Kubernetes.readBytes (.string encoded)).bind String.fromUTF8? = some text)
    (hne : text ≠ "") : Kubernetes.IsClientSecret (.string encoded) := by
  obtain ⟨bytes, hbytes, htext⟩ := Option.bind_eq_some_iff.1 h
  exact ⟨bytes, hbytes, text, htext, hne⟩

/-- Of two runs with different client secrets each posts its own, once, and they do the same. -/
theorem entrusted_secret_posted_once : ∃ t t' q q',
    (operate entrusted [("monitoring", "logs")]).After t q ∧
    (operate entrusted [("monitoring", "logs")]).After t' q' ∧
    List.Forall₂ AnsweredAlike t t' ∧
    t.filterMap (fun e => postedSecret? e.call) = ["alpha"] ∧
    t'.filterMap (fun e => postedSecret? e.call) = ["bravo"] ∧
    (∀ (i : Nat) (e e' : Exchange World), t[i]? = some e → t'[i]? = some e' →
      e.call.Alike (NamesTenant (t.take i)) e'.call ∧
      (e.call ≠ e'.call → IsForDirectory e.call ∧ IsForDirectory e'.call)) ∧
    StandAlike secrecy ResultsAlike t q q' := by
  have halpha : Kubernetes.IsClientSecret (.string "YWxwaGE=") :=
    isClientSecret_of_decodes "alpha" (by decide +kernel) (by decide)
  have hbravo : Kubernetes.IsClientSecret (.string "YnJhdm8=") :=
    isClientSecret_of_decodes "bravo" (by decide +kernel) (by decide)
  obtain ⟨q, hrun⟩ := Program.exists_after_answered
    (p := operate entrusted [("monitoring", "logs")]) (entrustedReplies "YWxwaGE=")
  obtain ⟨q', hrun'⟩ := Program.exists_after_answered
    (p := operate entrusted [("monitoring", "logs")]) (entrustedReplies "YnJhdm8=")
  have htold : List.Forall₂ AnsweredAlike
      ((operate entrusted [("monitoring", "logs")]).answered (entrustedReplies "YWxwaGE="))
      ((operate entrusted [("monitoring", "logs")]).answered (entrustedReplies "YnJhdm8=")) :=
    answeredAlike_replies rfl halpha hbravo
  exact ⟨_, _, q, q', hrun, hrun', htold, by decide +kernel, by decide +kernel,
    secret_reaches_directory_only rfl hrun hrun' htold⟩

end BucketOperator.Reconcile
