import BucketOperator.Proofs.Azure.Putting
import BucketOperator.Proofs.Cluster.Resolving
import BucketOperator.Proofs.Reconcile.Phases

/-!
# Private clusters

Whether a cluster is private is found out anew in every reconciliation, before anything is sent to
Azure. A cluster that cannot be resolved from what the control plane tells is a failure, and no
account is asked for with public access unless the values of the cluster were read and do not say
that it is private.
-/

namespace BucketOperator.Reconcile

open Azure (IsAccount PutsOnly SuitsNetwork publicAccess? put?)
open Cluster (Content IsPrivate IsPublic IsResolvable IsSound ReadsAs Shows)
open Program (AsksAfter OnlyAsks Returns ensures_bind)
open World.Call (IsOffline)

/-! ### Reconciliations as programs of the world -/

section Programs

variable {settings : Settings} {namespaceName name : String} {bucket : Bucket}

/-- What follows once the cluster has been resolved. -/
def equip (settings : Settings) (bucket : Bucket) (cluster : ClusterContext) :
    Program World (Except Failure Outcome × Option Services) :=
  match Services.of settings.tokenFile settings.patience cluster with
  | .error failure => .done (.error failure, none)
  | .ok adapters =>
    (if bucket.isBeingDeleted then release cluster.provider bucket
      else converge cluster.provider bucket).run.interpret (Call.serve settings) (some adapters)

/-- What follows once the record has been read. -/
def attend (settings : Settings) (bucket : Bucket) :
    Program World (Except Failure Outcome × Option Services) :=
  (Cluster.resolve settings.cluster).bind fun
    | .error failure => .done (.error failure, none)
    | .ok cluster => equip settings bucket cluster

lemma interpret_proceed :
    (proceed bucket).run.interpret (Call.serve settings) none = attend settings bucket := by
  change ((Cluster.resolve settings.cluster).bind _).bind _ = _
  rw [Program.bind_assoc, attend]
  congr 1
  funext resolved
  cases resolved with
  | error failure => rfl
  | ok cluster =>
    change Program.bind (Call.serve settings (.services cluster) none) _ =
      equip settings bucket cluster
    rw [equip, Call.serve]
    cases Services.of settings.tokenFile settings.patience cluster <;> rfl

lemma interpret_reconcile :
    (reconcile namespaceName name).run.interpret (Call.serve settings) none =
      (Bucket.load settings.patience namespaceName name).bind fun
        | .error failure => .done (.error failure, none)
        | .ok none => .done (.ok .gone, none)
        | .ok (some bucket) => attend settings bucket := by
  change ((Bucket.load settings.patience namespaceName name).bind _).bind _ = _
  rw [Program.bind_assoc]
  congr 1
  funext loaded
  rcases loaded with failure | _ | bucket
  · rfl
  · rfl
  · exact interpret_proceed

/-- A reconciliation that has come to an outcome is counted. -/
def finish (start : Nat) (r : Except Failure Outcome × Option Services) :
    Program World (Except Failure Outcome) :=
  .ask .clock fun (now : Nat) => .ask (.record (eventOf (now - start) r.1)) fun _ => .done r.1

/-- A run is a reconciliation after the time was read. -/
lemma run_eq : run settings namespaceName name = .ask .clock fun (start : Nat) =>
    ((reconcile namespaceName name).run.interpret (Call.serve settings) none).bind
      (finish start) := by
  change Program.ask _ _ = Program.ask _ _
  congr 1
  funext (start : Nat)
  change (Program.interpret _ (Program.bind _ _) _).bind _ = _
  rw [Program.interpret_bind, Program.bind_assoc]
  rfl

end Programs

/-! ### What follows the resolution -/

/-- Calls of a reconciliation that has its adapters. -/
def Call.IsWork : Call → Prop
  | .load .. => False
  | .resolve => False
  | .services _ => False
  | _ => True

section Work

variable {provider : CloudProvider} {bucket : Bucket} {c : Call}

lemma onlyAsks_observe {α : Type} {operation : String} {outcome : c.Answer → Except Failure α}
    (h : c.IsWork) : (Steps.observe provider operation
      (.ask c fun r => .done (outcome r))).run.OnlyAsks Call.IsWork :=
  ⟨trivial, fun _ => ⟨h, fun _ => ⟨trivial, fun _ => ⟨trivial, fun _ => trivial⟩⟩⟩⟩

lemma onlyAsks_letGo : (letGo bucket).run.OnlyAsks Call.IsWork :=
  ⟨trivial, fun r => by cases r <;> trivial⟩

lemma onlyAsks_release : (release provider bucket).run.OnlyAsks Call.IsWork := by
  rw [release_eq]
  refine OnlyAsks.steps_bind (onlyAsks_observe trivial) fun found => ?_
  split
  · refine OnlyAsks.steps_bind (onlyAsks_observe trivial) fun _ => ?_
    refine OnlyAsks.steps_bind ⟨trivial, fun _ => trivial⟩ fun _ => ?_
    split
    · exact OnlyAsks.steps_bind (onlyAsks_observe trivial) fun _ => onlyAsks_letGo
    · exact onlyAsks_letGo
  · exact onlyAsks_letGo

lemma onlyAsks_report : (report bucket).run.OnlyAsks Call.IsWork := by
  unfold report
  split
  · exact OnlyAsks.steps_bind ⟨trivial, fun _ => trivial⟩ fun _ => trivial
  · trivial

lemma onlyAsks_converge : (converge provider bucket).run.OnlyAsks Call.IsWork := by
  rw [converge_eq]
  refine OnlyAsks.steps_bind ⟨trivial, fun _ => trivial⟩ fun _ => ?_
  refine OnlyAsks.steps_bind (onlyAsks_observe trivial) fun found => ?_
  refine OnlyAsks.steps_bind (onlyAsks_observe trivial) fun _ => ?_
  refine OnlyAsks.steps_bind (onlyAsks_observe trivial) fun _ => ?_
  split
  · exact OnlyAsks.steps_bind (onlyAsks_observe trivial) fun _ => onlyAsks_report
  · exact onlyAsks_report

end Work

/-! ### What may be sent -/

/-- A document says as much about public access as the values of the cluster allow. -/
structure SuitsContent (content : Content) (cluster : ManagementCluster) (body : Json) : Prop where
  ofPublic : publicAccess? body = some "Enabled" → IsPublic content cluster
  ofPrivate : IsPrivate content cluster → IsAccount body → publicAccess? body = some "Disabled"

/-- What a reconciliation may ask for: such documents, and nothing of Azure unless the cluster can
be resolved. -/
structure MayBeAsked (content : Content) (cluster : ManagementCluster) (c : World.Call) : Prop where
  puts : PutsOnly (SuitsContent content cluster) c
  resolvable : ¬ IsResolvable content cluster → c.IsOffline

/-- The control plane shows its content wherever the cluster is resolved, and has the record. -/
structure Tells (content : Content) (cluster : ManagementCluster) (namespaceName name : String)
    (e : Exchange World) : Prop where
  shown : AsksAfter (Shows content) (Cluster.resolve cluster) e.call → Shows content e
  present : ∀ request reply, e = ⟨.kubernetes request, reply⟩ →
    Kubernetes.Request.of? .get (Kubernetes.buckets namespaceName ++ "/" ++ name) = some request →
      ∀ code, reply.outcome ≠ .error (.status code true)

/-- A run against such a control plane. -/
def telling (content : Content) (cluster : ManagementCluster) (namespaceName name : String) :
    Behaviour World Unit := fun _ c r _ => Tells content cluster namespaceName name ⟨c, r⟩

/-- The outcome is a failure of resolving. -/
def FailsResolving {α : Type} (outcome : Except Failure α) : Prop :=
  ∃ failure, outcome = .error failure ∧ failure.isOfResolving = true

section Sending

variable {B : Behaviour World Unit} {content : Content} {cluster : ManagementCluster}
  {settings : Settings} {context : AzureContext} {c : World.Call} {α : Type}

lemma mayBeAsked_of_isOffline (h : c.IsOffline) : MayBeAsked content cluster c :=
  ⟨Azure.putsOnly_of_isOffline h, fun _ => h⟩

/-- What suits the network of a sound context suits the values. -/
lemma mayBeAsked_of_putsOnly (hcontext : IsSound content cluster context)
    (h : PutsOnly (SuitsNetwork context.isPrivate) c) : MayBeAsked content cluster c := by
  refine ⟨fun body hbody => ?_, fun hno => absurd hcontext.resolvable hno⟩
  cases hprivate : context.isPrivate with
  | true =>
    have hsecret := hcontext.ofPrivate hprivate
    rcases h body hbody with ⟨haccount, haccess⟩ | ⟨haccount, haccess⟩
    · rw [hprivate] at haccess
      refine ⟨fun henabled => ?_, fun _ _ => haccess⟩
      exact absurd (henabled.symm.trans haccess) (by simp)
    · refine ⟨fun henabled => ?_, fun _ hyes => absurd hyes haccount⟩
      cases henabled.symm.trans haccess
  | false =>
    have hopen := hcontext.ofPublic hprivate
    exact ⟨fun _ => hopen, fun hsecret => absurd hopen hsecret.not_isPublic⟩

/-- The adapters are those of a sound context. -/
def IsEquipped (content : Content) (cluster : ManagementCluster) (x : Option Services) : Prop :=
  ∃ context client token, x = some (.azure context client token) ∧
    IsSound content cluster context

/-- A call is made as it may be, and leaves sound adapters behind. -/
def Keeps (B : Behaviour World Unit) (content : Content) (cluster : ManagementCluster)
    (p : Program World (α × Option Services)) : Prop :=
  p.Ensures B (fun _ c => MayBeAsked content cluster c)
    (Returns (fun _ r => IsEquipped content cluster r.2) fun _ => True) ()

lemma keeps_bind {β : Type} {p : Program World β} {g : β → α × Option Services}
    (hp : p.OnlyAsks (MayBeAsked content cluster)) (hg : ∀ b, IsEquipped content cluster (g b).2) :
    Keeps B content cluster (p.bind fun b => .done (g b)) := by
  refine ensures_bind.2 (hp.ensures (fun _ _ h => h) ?_)
  rintro _ (_ | b)
  · trivial
  · exact hg b

lemma keeps_offline {p : Program World α} {x : Option Services} (hp : p.OnlyAsks IsOffline)
    (hx : IsEquipped content cluster x) :
    Keeps B content cluster (p.bind fun a => .done (a, x)) :=
  keeps_bind (hp.mono fun _ => mayBeAsked_of_isOffline) fun _ => hx

/-- An operation of the adapters leaves them with the token of their client. -/
lemma withServices_azure {client : Azure.Client} {token : Option String}
    {operation : Azure.Operation α} {ask : Services → Program World (Except Failure α × Services)}
    (hask : ask (.azure context client token) =
      Services.runAzure context client token operation) :
    withServices (some (.azure context client token)) ask =
      (operation.runFrom client token).bind fun r =>
        .done (r.1, some (.azure context client r.2)) := by
  change (ask _).bind _ = _
  rw [hask]
  change ((operation.runFrom client token).bind _).bind _ = _
  rw [Program.bind_assoc]
  rfl

/-- What the adapters of a sound context ask for suits the values of the cluster. -/
lemma keeps_adapter {client : Azure.Client} {token : Option String}
    {operation : Azure.Operation α} {ask : Services → Program World (Except Failure α × Services)}
    (hcontext : IsSound content cluster context)
    (hask : ask (.azure context client token) = Services.runAzure context client token operation)
    (hoperation : operation.run.OnlyAsks
      (Azure.Call.PutsOnly (SuitsNetwork context.isPrivate))) :
    Keeps B content cluster (withServices (some (.azure context client token)) ask) := by
  rw [withServices_azure hask]
  refine keeps_bind (OnlyAsks.mono (hoperation.interpret (fun _ _ => Azure.onlyAsks_serve) token)
    fun _ => mayBeAsked_of_putsOnly hcontext) fun r => ⟨context, client, r.2, rfl, hcontext⟩

-- What the adapters ask for is told by lemmas and must not be computed.
attribute [local irreducible] Azure.Storage.doesExist Services.azureChange

/-- With the adapters of a sound context the calls of a reconciliation are made as they may
be. -/
lemma keeps_serve {c : Call} {x : Option Services} (hc : c.IsWork)
    (hx : IsEquipped content cluster x) : Keeps B content cluster (c.serve settings x) := by
  cases c with
  | load namespaceName name => exact hc.elim
  | resolve => exact hc.elim
  | services cluster => exact hc.elim
  | addFinalizer bucket => exact keeps_offline Kubernetes.onlyAsks_addFinalizer hx
  | removeFinalizer bucket => exact keeps_offline Kubernetes.onlyAsks_removeFinalizer hx
  | patchStatus bucket status => exact keeps_offline Bucket.onlyAsks_patchStatus hx
  | doesExist bucket =>
    obtain ⟨context, client, token, rfl, hcontext⟩ := hx
    exact keeps_adapter hcontext rfl Azure.onlyAsks_doesExist
  | change change bucket =>
    obtain ⟨context, client, token, rfl, hcontext⟩ := hx
    exact keeps_adapter hcontext rfl Azure.onlyAsks_change
  | clock => exact keeps_offline (p := World.clock) ⟨trivial, fun _ => trivial⟩ hx
  | record event =>
    exact keeps_offline (p := World.record event) ⟨trivial, fun _ => trivial⟩ hx

end Sending

/-! ### A whole run -/

section Runs

variable {content : Content} {settings : Settings} {namespaceName name : String} {bucket : Bucket}

/-- If the cluster cannot be resolved, there is an outcome, and it is a failure of resolving. -/
def EndsUnresolved (content : Content) (cluster : ManagementCluster)
    (o : Option (Except Failure Outcome × Option Services)) : Prop :=
  ¬ IsResolvable content cluster → ∃ r, o = some r ∧ FailsResolving r.1

/-- The adapters that are set up for a sound context are those of that context. -/
lemma isEquipped_of_services {context : AzureContext} {tokenFile : Option String} {patience : Nat}
    {adapters : Services} (hcontext : IsSound content settings.cluster context)
    (h : Services.of tokenFile patience (.azure context) = .ok adapters) :
    IsEquipped content settings.cluster (some adapters) := by
  rw [Services.of] at h
  cases hcredential : Azure.Credential.of context tokenFile with
  | error failure =>
    rw [hcredential] at h
    cases h
  | ok credential =>
    rw [hcredential] at h
    cases hclient : Azure.Client.of context credential patience with
    | error failure =>
      simp only [bind, Except.bind, hclient] at h
      cases h
    | ok client =>
      simp only [bind, Except.bind, hclient] at h
      cases h
      exact ⟨context, client, none, rfl, hcontext⟩

/-- Once a cluster has been resolved, everything is asked for as it may be. -/
lemma ensures_equip {context : AzureContext}
    (hcontext : IsSound content settings.cluster context) :
    (equip settings bucket (.azure context)).Ensures
      (telling content settings.cluster namespaceName name)
      (fun _ c => MayBeAsked content settings.cluster c)
      (fun _ o => EndsUnresolved content settings.cluster o) () := by
  have hends : ∀ o : Option (Except Failure Outcome × Option Services),
      EndsUnresolved content settings.cluster o := fun _ hno => absurd hcontext.resolvable hno
  rw [equip]
  cases hadapters : Services.of settings.tokenFile settings.patience (.azure context) with
  | error failure => exact hends _
  | ok adapters =>
    have hwork : (if bucket.isBeingDeleted then release .azure bucket
        else converge .azure bucket).run.OnlyAsks Call.IsWork := by
      split
      · exact onlyAsks_release
      · exact onlyAsks_converge
    exact (hwork.ensures_interpret (fun _ _ _ hx hc => keeps_serve hc hx)
      (isEquipped_of_services hcontext hadapters)).mono (fun _ _ h => h) fun _ o _ => hends o

/-- After the record has been read, everything is asked for as it may be. -/
lemma ensures_attend (hazure : settings.cluster.provider = .azure) :
    (attend settings bucket).Ensures (telling content settings.cluster namespaceName name)
      (fun _ c => MayBeAsked content settings.cluster c)
      (fun _ o => EndsUnresolved content settings.cluster o) () := by
  have hresolve : (Cluster.resolve settings.cluster).Ensures
      (telling content settings.cluster namespaceName name) (fun _ c => c.IsOffline)
      (fun _ o => ∃ r, o = some r ∧ ReadsAs (fun context => ∃ azure, context = .azure azure ∧
        IsSound content settings.cluster azure) r) () :=
    (Cluster.ensures_resolve hazure).of_asksAfter fun _ _ h => h.shown
  refine ensures_bind.2 (hresolve.mono (fun _ _ => mayBeAsked_of_isOffline) ?_)
  rintro _ _ ⟨failure | context, rfl, hread⟩
  · exact fun _ => ⟨_, rfl, failure, rfl, hread⟩
  · obtain ⟨context, rfl, hcontext⟩ := hread
    exact ensures_equip hcontext

/-- A record that is there is not missed, and if it is not loaded, the control plane failed. -/
lemma ensures_load : (Bucket.load settings.patience namespaceName name).Ensures
    (telling content settings.cluster namespaceName name)
    (fun _ c => MayBeAsked content settings.cluster c)
    (Returns (fun _ loaded => loaded ≠ .ok none ∧
      ∀ failure, loaded = .error failure → failure.isOfResolving = true) fun _ => True) () := by
  have hget : (Kubernetes.get? Bucket.read (Kubernetes.buckets namespaceName) name).Ensures
      (telling content settings.cluster namespaceName name)
      (fun _ c => MayBeAsked content settings.cluster c)
      (Returns (fun _ found => True ∧ found ≠ .ok none) fun _ => True) () := by
    rcases Kubernetes.get_cases Bucket.read (Kubernetes.buckets namespaceName) name with
      hget | ⟨request, hrequest, hget⟩
    · rw [hget]
      refine ⟨trivial, ?_⟩
      rintro ⟨⟩
    · rw [hget]
      refine ⟨mayBeAsked_of_isOffline trivial, ?_⟩
      rintro (reply : Kubernetes.Reply) _ htells
      refine ⟨trivial, fun hnone => ?_⟩
      obtain ⟨code, hgone⟩ := Kubernetes.told_eq_none hnone
      exact htells.present request reply rfl hrequest code hgone
  rw [Bucket.load, Kubernetes.persist, Program.bind_eq, ensures_bind]
  refine (Retry.ensures_persist_of_isIdle (P := fun _ => True)
    (Q := fun _ found => found ≠ .ok none) ⟨fun _ _ _ _ => rfl, fun _ _ _ _ _ => rfl⟩
    (fun _ _ => mayBeAsked_of_isOffline trivial)
    (fun _ _ _ => mayBeAsked_of_isOffline trivial) (fun _ _ => hget) trivial).mono
    (fun _ _ h => h) ?_
  rintro _ (_ | failure | found) h
  · trivial
  · constructor
    · rintro ⟨⟩
    · rintro _ ⟨⟩
      rfl
  · constructor
    · rintro ⟨⟩
      exact h.2 rfl
    · rintro _ ⟨⟩

lemma ensures_reconcile (hazure : settings.cluster.provider = .azure) :
    ((reconcile namespaceName name).run.interpret (Call.serve settings) none).Ensures
      (telling content settings.cluster namespaceName name)
      (fun _ c => MayBeAsked content settings.cluster c)
      (fun _ o => o ≠ none → EndsUnresolved content settings.cluster o) () := by
  rw [interpret_reconcile]
  refine ensures_bind.2 (ensures_load.mono (fun _ _ h => h) ?_)
  rintro _ (_ | failure | _ | bucket) hloaded
  · exact fun hnone => absurd rfl hnone
  · exact fun _ _ => ⟨_, rfl, failure, rfl, hloaded.2 failure rfl⟩
  · exact absurd rfl hloaded.1
  · exact (ensures_attend hazure).mono (fun _ _ h => h) fun _ _ h _ => h

/-- A run asks for everything as it may, and fails if the cluster cannot be resolved. -/
lemma ensures_run (hazure : settings.cluster.provider = .azure) :
    (run settings namespaceName name).Ensures (telling content settings.cluster namespaceName name)
      (fun _ c => MayBeAsked content settings.cluster c)
      (fun _ o => ∀ outcome, o = some outcome → ¬ IsResolvable content settings.cluster →
        FailsResolving outcome) () := by
  rw [run_eq]
  refine ⟨mayBeAsked_of_isOffline trivial, fun (start : Nat) _ _ => ?_⟩
  refine ensures_bind.2 ((ensures_reconcile hazure).mono (fun _ _ h => h) ?_)
  rintro _ (_ | r) hends
  · exact nofun
  refine ⟨mayBeAsked_of_isOffline trivial, fun _ _ _ => ?_⟩
  refine ⟨mayBeAsked_of_isOffline trivial, fun _ _ _ => ?_⟩
  rintro _ ⟨⟩ hno
  obtain ⟨_, ⟨⟩, hfails⟩ := hends nofun hno
  exact hfails

/-- Whether an exchange is an answer of the control plane that asks for another attempt. -/
def isPassing : Exchange World → Bool
  | ⟨.kubernetes _, (reply : Kubernetes.Reply)⟩ => Kubernetes.asksAgain reply.outcome
  | _ => false

/-- Loading a record is cut only after as many attempts as it may take. -/
lemma patience_le_of_load_cut {patience : Nat} {t : Trace World}
    (h : (Bucket.load patience namespaceName name).After t .cut) :
    patience ≤ t.countP isPassing := by
  have hread := Kubernetes.get_cases Bucket.read (Kubernetes.buckets namespaceName) name
  have hwhole : ∀ t, ¬ (Kubernetes.get? Bucket.read (Kubernetes.buckets namespaceName)
      name).After t .cut := by
    intro t h
    rcases hread with hget | ⟨request, -, hget⟩
    · rw [hget] at h
      exact Program.not_done_after_cut h
    · rw [hget] at h
      obtain ⟨_, _, -, hdone⟩ := Program.ask_after_cut_iff.1 h
      exact Program.not_done_after_cut hdone
  have hasked : ∀ t found, (Kubernetes.get? Bucket.read (Kubernetes.buckets namespaceName)
      name).Yields t found → Kubernetes.asksAgain found = true → 1 ≤ t.countP isPassing := by
    intro t found hyields hagain
    rcases hread with hget | ⟨request, -, hget⟩
    · rw [hget] at hyields
      obtain ⟨rfl, rfl⟩ := Program.yields_done_iff.1 hyields
      cases hagain
    · rw [hget] at hyields
      obtain ⟨reply, u, rfl, hdone⟩ := Program.yields_ask_iff.1 hyields
      obtain ⟨rfl, rfl⟩ := Program.yields_done_iff.1 hdone
      have hpassing : isPassing ⟨.kubernetes request, reply⟩ = true :=
        Kubernetes.asksAgain_of_told hagain
      simp [hpassing]
  rcases Program.bind_after_cut_iff.1 h with h | ⟨_, _, _, _, _, hdone⟩
  · exact Retry.le_countP_of_persist_cut Retry.endless_isForCalls hwhole hasked
      Retry.isForCalls_forCalls h
  · exact absurd hdone Program.not_done_after_cut

lemma not_finish_after_cut {start : Nat} {r : Except Failure Outcome × Option Services}
    {t : Trace World} : ¬ (finish start r).After t .cut := by
  intro h
  obtain ⟨_, _, -, hrecord⟩ := Program.ask_after_cut_iff.1 h
  obtain ⟨_, _, -, hdone⟩ := Program.ask_after_cut_iff.1 hrecord
  exact Program.not_done_after_cut hdone

/-- If the cluster cannot be resolved, a run is cut only where the record cannot be read. -/
lemma patience_le_of_run_cut {t : Trace World} (hazure : settings.cluster.provider = .azure)
    (hno : ¬ IsResolvable content settings.cluster)
    (htold : ∀ e ∈ t, Tells content settings.cluster namespaceName name e)
    (h : (run settings namespaceName name).After t .cut) :
    settings.patience ≤ t.countP isPassing := by
  rw [run_eq, interpret_reconcile] at h
  obtain ⟨start, u, rfl, hu⟩ := Program.ask_after_cut_iff.1 h
  rcases Program.bind_after_cut_iff.1 hu with hu | ⟨_, _, _, _, _, hfinish⟩
  · rcases Program.bind_after_cut_iff.1 hu with hload | ⟨v, w, loaded, rfl, _, hattend⟩
    · refine (patience_le_of_load_cut hload).trans ?_
      simp [List.countP_cons]
    · rcases loaded with failure | _ | bucket
      · exact absurd hattend Program.not_done_after_cut
      · exact absurd hattend Program.not_done_after_cut
      · -- Resolving the cluster ends in a failure, so the run is not cut after the record was read.
        have hworld : Along (telling content settings.cluster namespaceName name) () w () :=
          Program.along_of_forall fun e he => htold e (by simp [he])
        obtain ⟨_, ⟨⟩, _⟩ := (ensures_attend hazure).along hattend hworld hno
  · exact absurd hfinish not_finish_after_cut

end Runs

/-! ### Private and public clusters -/

/-- A run on Azure, whatever the control plane holds: accounts are put in place with public access
only if the values of the cluster were not found, or say nothing of it, or do not say that its
network is private; if they say so, accounts are put in place without. If the cluster cannot be
resolved, nothing is sent to Azure, and the run fails, unless it is cut because the record could not
be read in as many attempts as are allowed. -/
theorem access_as_declared {content : Content} {settings : Settings} {namespaceName name : String}
    {t : Trace World} {q : Program World (Except Failure Outcome)}
    (hazure : settings.cluster.provider = .azure)
    (hrun : (run settings namespaceName name).After t q)
    (htold : ∀ e ∈ t, Tells content settings.cluster namespaceName name e) :
    (∀ e ∈ t, ∀ body, put? e.call = some body → publicAccess? body = some "Enabled" →
      IsPublic content settings.cluster) ∧
    (IsPrivate content settings.cluster → ∀ e ∈ t, ∀ body, put? e.call = some body →
      IsAccount body → publicAccess? body = some "Disabled") ∧
    (¬ IsResolvable content settings.cluster →
      (∀ e ∈ t, e.call.IsOffline) ∧ (∀ outcome, q = .done outcome → FailsResolving outcome) ∧
      (q = .cut → settings.patience ≤ t.countP isPassing)) := by
  have hworld : Along (telling content settings.cluster namespaceName name) () t () :=
    Program.along_of_forall htold
  have hensures : (run settings namespaceName name).Ensures
      (telling content settings.cluster namespaceName name)
      (fun _ c => MayBeAsked content settings.cluster c)
      (fun _ o => ∀ outcome, o = some outcome → ¬ IsResolvable content settings.cluster →
        FailsResolving outcome) () := ensures_run hazure
  have hasked : ∀ e ∈ t, MayBeAsked content settings.cluster e.call := fun e he =>
    (hensures.asked_of_mem hrun hworld he).elim fun _ h => h
  refine ⟨?_, ?_, fun hno => ⟨?_, ?_, ?_⟩⟩
  · intro e he body hbody
    exact ((hasked e he).puts body hbody).ofPublic
  · intro hprivate e he body hbody
    exact ((hasked e he).puts body hbody).ofPrivate hprivate
  · intro e he
    exact (hasked e he).resolvable hno
  · rintro outcome rfl
    exact hensures.along hrun hworld outcome rfl hno
  · rintro rfl
    exact patience_le_of_run_cut hazure hno htold hrun

/-! ### A private cluster -/

/-- An operator on a cluster whose network is private. -/
def secluded : Settings where
  cluster :=
    { name := "alba"
      namespaceName := "org"
      baseDomain := "example.com"
      provider := .azure
      region := "westeurope" }
  tokenFile := none
  patience := 1

/-- What the control plane knows of the cluster, and the record of a bucket. -/
def knownObjects : List (String × Json) := [
  (Kubernetes.buckets "monitoring" ++ "/logs", .object [
    ("metadata", .object [
      ("finalizers", .strings [Bucket.finalizer]),
      ("name", .string "logs"),
      ("namespace", .string "monitoring")]),
    ("spec", .object [("name", .string "logs")])]),
  (Kubernetes.azureClusters "org" ++ "/alba", .object [
    ("metadata", .object []),
    ("spec", .object [
      ("identityRef", .object [("name", .string "operator")]),
      ("resourceGroup", .string "alba"),
      ("subscriptionID", .string "subscription")])]),
  (Kubernetes.azureIdentities "org" ++ "/operator", .object [
    ("metadata", .object []),
    ("spec", .object [
      ("clientID", .string "client"),
      ("type", .string "UserAssignedMSI")])]),
  (Kubernetes.configMaps "org" ++ "/alba-cluster-values", .object [
    ("data", .object [
      ("values",
        .string "global:\n  connectivity:\n    network:\n      mode: private\n")])])]

/-- Everything else cannot be asked about. -/
def knownContent : Content := fun request =>
  match knownObjects.lookup request.path with
  | some document => .answered 200 (.json document)
  | none => .unreachable

/-- An Azure that has no account and lets nobody put one in place. -/
def refusal (request : Http.Request) : Http.Response :=
  if request.headers.lookup "metadata" = some "true" then
    ⟨200, [], "\x7b\"access_token\":\"token\"\x7d"⟩
  else if request.method = .get then ⟨404, [], ""⟩
  else ⟨400, [], ""⟩

/-- Answers of that control plane and of that Azure. -/
def replies : (c : World.Call) → c.Answer
  | .kubernetes request => knownContent request
  | .http request => some (refusal request)
  | .s3 .. => .error .dispatch
  | .iam .. => .error .dispatch
  | .sleep _ => ()
  | .clock => (0 : Nat)
  | .readFile _ => .error ""
  | .record _ => ()

lemma tells_replies (c : World.Call) :
    Tells knownContent secluded.cluster "monitoring" "logs" ⟨c, replies c⟩ := by
  refine ⟨fun _ => ?_, ?_⟩
  · cases c with
    | kubernetes request => rfl
    | _ => trivial
  · rintro request reply hreply - code hmissing
    cases hreply
    simp only [replies, knownContent] at hmissing
    split at hmissing <;> cases hmissing

lemma isPrivate_secluded : IsPrivate knownContent secluded.cluster := by
  have hmode : ((((knownContent.values? secluded.cluster).toOption.bind id).bind
      Cluster.valuesText?).bind Yaml.parse?).bind Cluster.networkMode? = some "private" := by
    decide +kernel
  obtain ⟨document, hdocument, hmode⟩ := Option.bind_eq_some_iff.1 hmode
  obtain ⟨text, htext, hdocument⟩ := Option.bind_eq_some_iff.1 hdocument
  obtain ⟨configMap, hvalues, htext⟩ := Option.bind_eq_some_iff.1 htext
  refine ⟨configMap, text, document, ?_, htext, hdocument, hmode⟩
  cases hfound : knownContent.values? secluded.cluster with
  | error failure =>
    rw [hfound] at hvalues
    cases hvalues
  | ok found =>
    rw [hfound] at hvalues
    exact congrArg Except.ok hvalues

/-- The account of a bucket of a private cluster is asked for, and without public access. -/
theorem secluded_account_disabled : ∃ t q, (run secluded "monitoring" "logs").After t q ∧
    (∃ e ∈ t, ∃ body, put? e.call = some body ∧ IsAccount body) ∧
    (∀ e ∈ t, Tells knownContent secluded.cluster "monitoring" "logs" e) ∧
    IsPrivate knownContent secluded.cluster ∧
    ∀ e ∈ t, ∀ body, put? e.call = some body → IsAccount body →
      publicAccess? body = some "Disabled" := by
  have hput : (((run secluded "monitoring" "logs").answered replies).any fun e =>
      (put? e.call).any fun body => decide (IsAccount body)) = true := by
    decide +kernel
  obtain ⟨e, he, hput⟩ := List.any_eq_true.1 hput
  obtain ⟨body, hbody, haccount⟩ := (Option.any_eq_true _ _).1 hput
  obtain ⟨q, hrun⟩ := Program.exists_after_answered (p := run secluded "monitoring" "logs") replies
  have htold : ∀ e ∈ (run secluded "monitoring" "logs").answered replies,
      Tells knownContent secluded.cluster "monitoring" "logs" e := by
    intro e he
    obtain ⟨c, rfl⟩ := Program.exists_of_mem_answered he
    exact tells_replies c
  exact ⟨_, q, hrun, ⟨e, he, body, hbody, of_decide_eq_true haccount⟩, htold, isPrivate_secluded,
    (access_as_declared rfl hrun htold).2.1 isPrivate_secluded⟩

end BucketOperator.Reconcile
