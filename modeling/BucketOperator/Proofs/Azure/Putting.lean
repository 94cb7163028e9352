import BucketOperator.Proofs.Azure.Changing
import BucketOperator.Proofs.Kubernetes.Asking
import BucketOperator.Reconcile.Serve

/-!
# What is put in place on Azure

A client puts only the documents that its calls name, whatever it is answered. Those of the adapters
are an account, which says whether it is reached from public networks, and documents that do not
speak of that. So the account of a private cluster is never asked for as a public one.
-/

namespace BucketOperator.Azure

/-! ### Documents -/

/-- The document that a call puts in place, if it does that. -/
def put? : World.Call → Option Json
  | .http request =>
    match request.method, request.payload with
    | .put, some (.json body) => some body
    | _, _ => none
  | _ => none

/-- A call that puts nothing in place but documents of some kind. -/
def PutsOnly (P : Json → Prop) (c : World.Call) : Prop := ∀ body, put? c = some body → P body

/-- Whether a document is that of a storage account; these are the ones of this kind. -/
def IsAccount (body : Json) : Prop := (body.get? "kind").bind Json.string? = some "BlobStorage"

instance : DecidablePred IsAccount := fun _ => inferInstanceAs (Decidable (_ = _))

/-- What a document says about access from public networks. -/
def publicAccess? (body : Json) : Option String :=
  (body.path? ["properties", "publicNetworkAccess"]).bind Json.string?

/-- A document says as much about public access as it should: an account that there is none, or that
there is, and all others nothing. -/
inductive SuitsNetwork (isPrivate : Bool) (body : Json) : Prop where
  | account (haccount : IsAccount body)
      (haccess : publicAccess? body = some (if isPrivate then "Disabled" else "Enabled"))
  | other (haccount : ¬ IsAccount body) (haccess : publicAccess? body = none)

section Documents

variable {isPrivate : Bool} {location : String} {tags : StringMap String} {body : Json}

lemma suitsNetwork_account : SuitsNetwork isPrivate (Account.body location isPrivate tags) :=
  .account rfl rfl

lemma suitsNetwork_container : SuitsNetwork isPrivate (Container.body tags) := .other nofun rfl

lemma suitsNetwork_policy {rules : List Json} :
    SuitsNetwork isPrivate (Lifecycle.policyBody rules) := .other nofun rfl

lemma suitsNetwork_zone : SuitsNetwork isPrivate (PrivateEndpoint.zoneBody tags) := .other nofun rfl

lemma suitsNetwork_link {vnet : String} :
    SuitsNetwork isPrivate (PrivateEndpoint.linkBody vnet tags) := .other nofun rfl

lemma suitsNetwork_endpoint {ids : ResourceIds} :
    SuitsNetwork isPrivate (PrivateEndpoint.endpointBody ids location tags) := .other nofun rfl

lemma suitsNetwork_record {addresses : List String} :
    SuitsNetwork isPrivate (PrivateEndpoint.recordBody addresses tags) := .other nofun rfl

end Documents

/-! ### Sessions -/

section Sessions

variable {P : Json → Prop} {client : Client} {request : Http.Request} {token : Option String}
  {path version : String} {body : Json} {c : World.Call} {α β : Type}

lemma method_of_put? (h : put? (.http request) = some body) : request.method = .put := by
  simp only [put?] at h
  split at h
  next hmethod _ => exact hmethod
  · cases h

lemma putsOnly_of_not_isChange (h : ¬ IsChange c) : PutsOnly P c := by
  intro body hbody
  cases c with
  | http request => exact absurd ⟨request, rfl, .inl (method_of_put? hbody)⟩ h
  | _ => cases hbody

lemma putsOnly_of_isOffline (h : c.IsOffline) : PutsOnly P c := by
  refine putsOnly_of_not_isChange ?_
  rintro ⟨request, rfl, -⟩
  exact h

lemma onlyAsks_resume {f : α → Session β} {A : World.Call → Prop}
    (h : ∀ a token, ((f a).runFrom token).OnlyAsks A) : ∀ r, (resume f r).OnlyAsks A
  | (.ok a, token) => h a token
  | (.error _, _) => trivial

lemma onlyAsks_ofExcept {outcome : Except Failure α} {A : World.Call → Prop} :
    ((liftM outcome : Session α).runFrom token).OnlyAsks A := by
  rw [runFrom_ofExcept]
  trivial

/-- To send a request nothing else is put in place. -/
lemma onlyAsks_send (h : ∀ bearer, PutsOnly P (.http (bearing request bearer))) :
    ((client.send request).runFrom token).OnlyAsks (PutsOnly P) := by
  have hquiet : ∀ c, client.credential.Sends request c → PutsOnly P c := by
    intro c hc
    cases hc with
    | clock => exact putsOnly_of_isOffline trivial
    | sleep duration => exact putsOnly_of_isOffline trivial
    | token hcalls => exact putsOnly_of_not_isChange (not_isChange_of_calls hcalls)
    | bearing bearer => exact h bearer
  refine (ensures_send (P := fun _ => True) (C := fun _ => True) (Q := fun _ _ => True)
    ⟨?_, ?_⟩ (fun _ _ => trivial) ?_ ?_ trivial).onlyAsks
  · exact fun _ _ => ⟨hquiet _ .clock, fun _ _ _ => trivial⟩
  · exact fun _ duration _ => ⟨hquiet _ (.sleep duration), fun _ _ _ => trivial⟩
  · exact fun _ c _ hc => ⟨hquiet c (.token hc), fun _ _ _ => trivial⟩
  · exact fun _ bearer _ => ⟨h bearer, fun _ _ _ =>
      ⟨fun _ => trivial, fun _ => ⟨trivial, fun _ _ _ => trivial⟩⟩⟩

/-- Another request than a PUT puts nothing in place, and then only what follows counts. -/
lemma onlyAsks_send_of_ne {f : Http.Response → Session α} (h : request.method ≠ .put)
    (hf : ∀ response token, ((f response).runFrom token).OnlyAsks (PutsOnly P)) :
    (((client.send request).runFrom token).bind (resume f)).OnlyAsks (PutsOnly P) :=
  (onlyAsks_send fun _ _ hbody => absurd (method_of_put? hbody) h).bind (onlyAsks_resume hf)

lemma onlyAsks_follow {operation : Operation.Follow} :
    ((client.follow operation).runFrom token).OnlyAsks (PutsOnly P) := by
  rw [runFrom_follow]
  refine ⟨putsOnly_of_isOffline trivial, ?_⟩
  intro (start : Nat)
  beta_reduce
  generalize client.patience = patience
  generalize client.polls = backoff
  induction patience generalizing backoff token with
  | zero => trivial
  | succ patience ih =>
    rw [runFrom_pollFrom_succ, runFrom_poll]
    refine (onlyAsks_send_of_ne (by rintro ⟨⟩) fun _ _ => onlyAsks_ofExcept).bind
      (onlyAsks_resume fun progress token => ?_)
    cases progress with
    | ended => trivial
    | running =>
      rw [runFrom_repoll_running]
      refine ⟨putsOnly_of_isOffline trivial, fun (now : Nat) => ?_⟩
      change (if _ then _ else _ : Program World _).OnlyAsks _
      split
      · trivial
      · split
        · trivial
        · exact ⟨putsOnly_of_isOffline trivial, fun _ => ih _⟩

lemma onlyAsks_getResource :
    ((client.getResource path version).runFrom token).OnlyAsks (PutsOnly P) := by
  rw [runFrom_getResource]
  split
  · trivial
  · exact onlyAsks_send_of_ne (by rintro ⟨⟩) fun _ _ => onlyAsks_ofExcept

lemma onlyAsks_conclude {accepted : List Nat} {response : Http.Response}
    {k : Http.Response × Option Operation.Follow → Session α}
    (hk : ∀ x token, ((k x).runFrom token).OnlyAsks (PutsOnly P)) :
    ((client.conclude accepted response >>= k).runFrom token).OnlyAsks (PutsOnly P) := by
  rw [runFrom_bind, runFrom_conclude]
  refine Program.OnlyAsks.bind ?_ (onlyAsks_resume hk)
  split
  · trivial
  · trivial
  · exact onlyAsks_follow.bind (onlyAsks_resume fun _ _ => trivial)

/-- Creating a resource puts its document in place, and nothing else. -/
lemma onlyAsks_putResource (h : P body) :
    ((client.putResource path version body).runFrom token).OnlyAsks (PutsOnly P) := by
  rw [runFrom_putResource]
  split
  · trivial
  refine (onlyAsks_send ?_).bind (onlyAsks_resume fun response token => ?_)
  · rintro bearer _ ⟨⟩
    exact h
  · refine onlyAsks_conclude ?_
    rintro ⟨response, _ | operation⟩ token
    · exact onlyAsks_ofExcept
    · exact onlyAsks_getResource

lemma onlyAsks_postResource :
    ((client.postResource path version).runFrom token).OnlyAsks (PutsOnly P) := by
  rw [runFrom_postResource]
  split
  · trivial
  · exact onlyAsks_send_of_ne (by rintro ⟨⟩) fun _ _ => onlyAsks_ofExcept

lemma onlyAsks_deleteResource :
    ((client.deleteResource path version).runFrom token).OnlyAsks (PutsOnly P) := by
  rw [runFrom_deleteResource_eq]
  split
  · trivial
  · exact onlyAsks_send_of_ne (by rintro ⟨⟩) fun _ _ => onlyAsks_conclude fun _ _ => trivial

end Sessions

/-- A call of the adapter that puts nothing in place but documents of some kind. -/
def Call.PutsOnly (P : Json → Prop) : Call → Prop
  | .put _ _ body => P body
  | _ => True

section Serving

-- What these sessions ask for is told by lemmas and must not be computed.
attribute [local irreducible] Client.getResource Client.putResource Client.postResource
  Client.deleteResource

/-- Documents are put in place for no other calls than those that name them. -/
theorem onlyAsks_serve {P : Json → Prop} {client : Client} {token : Option String} {c : Call}
    (hc : c.PutsOnly P) : (c.serve client token).OnlyAsks (PutsOnly P) := by
  cases c with
  | get path version => exact onlyAsks_getResource
  | put path version body => exact onlyAsks_putResource hc
  | post path version => exact onlyAsks_postResource
  | delete path version => exact onlyAsks_deleteResource
  | applySecret namespaceName name accountName accountKey =>
    exact (AccessSecret.onlyAsks_apply.mono fun _ => putsOnly_of_isOffline).bind fun _ => trivial
  | deleteSecret namespaceName name =>
    exact (AccessSecret.onlyAsks_remove.mono fun _ => putsOnly_of_isOffline).bind fun _ => trivial

end Serving

/-! ### Changes to a bucket -/

section Changes

open Program (OnlyAsks)
open Reconcile (Change Services)

variable {A : Call → Prop} {α β : Type} {x : Steps α} {cluster : AzureContext} {bucket : Bucket}

lemma onlyAsks_orAbsent {absent : α} (h : x.run.OnlyAsks A) :
    (Steps.orAbsent x absent).run.OnlyAsks A := by
  rw [run_orAbsent]
  exact h.bind fun _ => trivial

lemma onlyAsks_map {g : α → β} (h : x.run.OnlyAsks A) : (g <$> x).run.OnlyAsks A := by
  rw [run_map]
  exact h.bind fun _ => trivial

lemma onlyAsks_named {name operation : String} (h : x.run.OnlyAsks A) :
    (named name operation x).run.OnlyAsks A := by
  rw [run_named]
  exact h.bind fun _ => trivial

/-- A call and no other. -/
lemma onlyAsks_call {ε : Type} {c : Call} {outcome : c.Answer → Except ε α} (h : A c) :
    (ExceptT.mk (.ask c fun r => .done (outcome r)) : ExceptT ε (Program Api) α).run.OnlyAsks A :=
  ⟨h, fun _ => trivial⟩

lemma onlyAsks_namespaceOf : (namespaceOf bucket).run.OnlyAsks A := by
  unfold namespaceOf
  split <;> trivial

variable {isPrivate : Bool} {ids : ResourceIds}

lemma onlyAsks_endpoint_ensure {location : String} {tags : StringMap String} :
    (PrivateEndpoint.ensure ids location tags).run.OnlyAsks
      (Call.PutsOnly (SuitsNetwork isPrivate)) := by
  refine OnlyAsks.steps_bind (onlyAsks_call suitsNetwork_zone) fun _ => ?_
  refine OnlyAsks.steps_bind (onlyAsks_call suitsNetwork_link) fun _ => ?_
  refine OnlyAsks.steps_bind (onlyAsks_call suitsNetwork_endpoint) fun _ => ?_
  exact OnlyAsks.steps_bind (onlyAsks_call suitsNetwork_record) fun _ => trivial

lemma onlyAsks_putRules {rules : List Json} :
    (Lifecycle.putRules ids rules).run.OnlyAsks (Call.PutsOnly (SuitsNetwork isPrivate)) :=
  OnlyAsks.steps_bind (onlyAsks_call suitsNetwork_policy) fun _ => trivial

lemma onlyAsks_lifecycle {days : Option Int32} :
    (Lifecycle.apply ids days).run.OnlyAsks (Call.PutsOnly (SuitsNetwork isPrivate)) := by
  have hcurrent : (Lifecycle.currentRules? ids).run.OnlyAsks
      (Call.PutsOnly (SuitsNetwork isPrivate)) :=
    onlyAsks_orAbsent (onlyAsks_map (onlyAsks_call trivial))
  unfold Lifecycle.apply
  refine hcurrent.steps_bind fun rules => ?_
  split
  · exact onlyAsks_putRules
  · trivial
  · split
    · split
      · exact onlyAsks_orAbsent (onlyAsks_call trivial)
      · exact onlyAsks_putRules
    · trivial

lemma onlyAsks_upsert {metadata : StringMap String} :
    (Container.upsert ids metadata).run.OnlyAsks (Call.PutsOnly (SuitsNetwork isPrivate)) :=
  OnlyAsks.steps_bind (onlyAsks_call suitsNetwork_container) fun _ => trivial

lemma onlyAsks_ensure :
    (Storage.ensure cluster bucket).run.OnlyAsks
      (Call.PutsOnly (SuitsNetwork cluster.isPrivate)) := by
  unfold Storage.ensure
  refine onlyAsks_namespaceOf.steps_bind fun namespaceName => ?_
  refine OnlyAsks.steps_bind (onlyAsks_named (onlyAsks_call suitsNetwork_account)) fun _ => ?_
  refine OnlyAsks.steps_bind (onlyAsks_named onlyAsks_upsert) fun _ => ?_
  extract_lets publish
  have hpublish : ∀ u, (publish u).run.OnlyAsks
      (Call.PutsOnly (SuitsNetwork cluster.isPrivate)) := by
    intro u
    refine OnlyAsks.steps_bind (onlyAsks_named ?_) fun key => ?_
    · exact OnlyAsks.steps_bind (onlyAsks_call trivial) fun _ => trivial
    · split
      · exact onlyAsks_call trivial
      · trivial
  split
  · exact OnlyAsks.steps_bind (onlyAsks_named onlyAsks_endpoint_ensure) hpublish
  · exact hpublish ()

/-- What the changes to a bucket put in place suits the network of the cluster. -/
theorem onlyAsks_change {change : Change} :
    (Services.azureChange cluster bucket change).run.OnlyAsks
      (Call.PutsOnly (SuitsNetwork cluster.isPrivate)) := by
  cases change with
  | createBucket => exact onlyAsks_ensure
  | updateBucket => exact onlyAsks_ensure
  | deleteBucket =>
    refine onlyAsks_namespaceOf.steps_bind fun namespaceName => ?_
    refine OnlyAsks.steps_bind (onlyAsks_named ?_) fun _ => ?_
    · exact OnlyAsks.steps_bind (onlyAsks_orAbsent (onlyAsks_call trivial)) fun _ =>
        onlyAsks_orAbsent (onlyAsks_call trivial)
    · refine OnlyAsks.steps_bind (onlyAsks_named (onlyAsks_orAbsent ?_)) fun _ => ?_
      · exact onlyAsks_map (onlyAsks_call trivial)
      · exact onlyAsks_call trivial
  | configureBucket =>
    exact OnlyAsks.steps_bind (onlyAsks_named onlyAsks_lifecycle) fun _ =>
      onlyAsks_named onlyAsks_upsert
  | configureRole => trivial
  | deleteRole =>
    change (AccessRole.remove cluster bucket).run.OnlyAsks _
    unfold AccessRole.remove
    split
    · trivial
    · exact onlyAsks_named (onlyAsks_orAbsent (onlyAsks_call trivial))

lemma onlyAsks_doesExist :
    (Storage.doesExist cluster bucket).run.OnlyAsks
      (Call.PutsOnly (SuitsNetwork cluster.isPrivate)) := by
  have hread : ∀ path version,
      (Steps.orAbsent ((fun _ => true) <$> Steps.get path version) false).run.OnlyAsks
        (Call.PutsOnly (SuitsNetwork cluster.isPrivate)) :=
    fun _ _ => onlyAsks_orAbsent (onlyAsks_map (onlyAsks_call trivial))
  refine OnlyAsks.steps_bind (onlyAsks_named (hread _ _)) fun found => ?_
  split
  · exact onlyAsks_named (hread _ _)
  · trivial

end Changes

end BucketOperator.Azure
