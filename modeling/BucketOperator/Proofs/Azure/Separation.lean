import BucketOperator.Proofs.Azure.Naming
import BucketOperator.Proofs.Azure.Removal
import BucketOperator.Proofs.Reconcile.Phases
import BucketOperator.Reconcile.Serve

/-!
# Buckets beside each other on Azure

The account and the address record of a bucket are named after the letters and digits of its name,
its container and its endpoint after the whole name. So the changes to one bucket leave another
alone if their accounts have different names and no endpoint is below the other, and only then.
-/

namespace BucketOperator.Azure

open Program (MayAsk)
open Reconcile (Change Services doomed)

/-! ### What belongs to a bucket -/

namespace ResourceIds

variable (ids : ResourceIds)

/-- What is put in place for one bucket. -/
def own : List String := [ids.storageAccount, ids.container, ids.privateEndpoint, ids.addressRecord]

/-- What is put in place once, for all buckets of a cluster. -/
def shared : List String := [ids.privateZone, ids.vnetLink]

/-- A resource of one bucket, or something in its account. -/
def IsOwn (path : String) : Prop :=
  Server.isWithin path ids.storageAccount = true ∨ path = ids.privateEndpoint ∨
    path = ids.addressRecord

end ResourceIds

/-- The resource that a call creates, replaces or deletes. -/
def Call.target? : Call → Option String
  | .put path _ _ => some path
  | .delete path _ => some path
  | _ => none

/-- Nothing of another bucket is, or is below, a resource that some change to a bucket puts or
deletes. Zone and link are put for both, and not deleted. -/
structure Spares (cluster : AzureContext) (bucket : Bucket) (other : String) : Prop where
  own : ∀ change call path, MayAsk (ExceptT.run (Services.azureChange cluster bucket change)) call →
    call.target? = some path → path ∉ (ResourceIds.of cluster bucket.spec.name).shared →
    ∀ part ∈ (ResourceIds.of cluster other).own, Server.isWithin part path = false
  shared : ∀ change path version,
    MayAsk (ExceptT.run (Services.azureChange cluster bucket change)) (.delete path version) →
    ∀ part ∈ (ResourceIds.of cluster other).shared, Server.isWithin part path = false

/-! ### Names and paths -/

/-- With a slash after each, a path is within another one exactly if it begins with it. -/
lemma isWithin_iff_slashed {path resource : String} :
    Server.isWithin path resource = true ↔
      resource.toList ++ ['/'] <+: path.toList ++ ['/'] := by
  rw [isWithin_iff, String.toList_append, List.prefix_concat_iff]
  constructor
  · rintro (rfl | h)
    · exact .inl rfl
    · exact .inr h
  · rintro (h | h)
    · exact .inl (String.toList_inj.1 (List.append_cancel_right h).symm)
    · exact .inr h

lemma isWithin_trans {a b c : String} (hab : Server.isWithin a b = true)
    (hbc : Server.isWithin b c = true) : Server.isWithin a c = true := by
  rw [isWithin_iff_slashed] at *
  exact hbc.trans hab

/-- The name of an account that a path goes on with is determined up to the next slash. -/
lemma accountName_of_begins {n m : String} {r : List Char}
    (h : (accountName n).toList ++ ['/'] <+: (accountName m).toList ++ '/' :: r) :
    accountName n = accountName m := by
  obtain ⟨t, ht⟩ := h
  rw [List.append_assoc, List.singleton_append] at ht
  apply String.toList_inj.1
  exact eq_of_append_slash (slash_notMem_accountName n) (slash_notMem_accountName m) ht

section Paths

open ResourceIds

variable {cluster : AzureContext} {n m part path : String}

/-- What is within something of a bucket is in its account, or is its endpoint or address record, or
is below one of these. -/
lemma ResourceIds.IsOwn.isWithin {ids : ResourceIds} (h : ids.IsOwn path)
    (hwithin : Server.isWithin part path = true) :
    Server.isWithin part ids.storageAccount = true ∨
      Server.isWithin part ids.privateEndpoint = true ∨
        Server.isWithin part ids.addressRecord = true := by
  rcases h with h | rfl | rfl
  · exact .inl (isWithin_trans hwithin h)
  · exact .inr (.inl hwithin)
  · exact .inr (.inr hwithin)

/-- Something of one bucket is within something of another only if they share an account, or if the
endpoint of the one is below that of the other. -/
lemma shares_of_isWithin (hpart : part ∈ (of cluster m).own) (hpath : (of cluster n).IsOwn path)
    (hwithin : Server.isWithin part path = true) :
    accountName n = accountName m ∨ Server.isWithin m n = true := by
  have h := hpath.isWithin hwithin
  simp only [isWithin_iff_slashed] at h ⊢
  have hgroup : (of cluster m).group = (of cluster n).group := rfl
  simp only [own, List.mem_cons, List.not_mem_nil, or_false] at hpart
  rcases hpart with rfl | rfl | rfl | rfl <;>
    simp [storageAccount, container, privateEndpoint, privateZone, addressRecord, hgroup,
      accountName_of, bucketName_of, ToString.toString] at h
  · exact .inl (accountName_of_begins h)
  · exact .inl (accountName_of_begins h)
  · exact .inr h
  · exact .inl (accountName_of_begins h)

/-- Neither the zone nor its link is within anything of a bucket. -/
lemma isWithin_shared (hpart : part ∈ (of cluster m).shared) (hpath : (of cluster n).IsOwn path) :
    Server.isWithin part path = false := by
  rw [← Bool.not_eq_true]
  intro hwithin
  have h := hpath.isWithin hwithin
  simp only [isWithin_iff_slashed] at h
  have hgroup : (of cluster m).group = (of cluster n).group := rfl
  simp only [shared, List.mem_cons, List.not_mem_nil, or_false] at hpart
  rcases hpart with rfl | rfl <;>
    simp [storageAccount, privateEndpoint, privateZone, vnetLink, addressRecord, hgroup,
      accountName_of, bucketName_of, ToString.toString] at h

end Paths

/-! ### What the changes to a bucket do -/

/-- A call that changes at most what belongs to a bucket, and puts at most that and what is
shared. -/
def Call.IsLocal (ids : ResourceIds) : Call → Prop
  | .put path _ _ => ids.IsOwn path ∨ path ∈ ids.shared
  | .delete path _ => ids.IsOwn path
  | _ => True

/-- All calls that some steps may ask are local. -/
def StaysLocal {ε α : Type} (ids : ResourceIds) (x : ExceptT ε (Program Api) α) : Prop :=
  ∀ call, x.run.MayAsk call → call.IsLocal ids

section Calls

variable {ids : ResourceIds} {ε α β : Type}

lemma StaysLocal.bind {x : ExceptT ε (Program Api) α} {f : α → ExceptT ε (Program Api) β}
    (hx : StaysLocal ids x) (hf : ∀ a, StaysLocal ids (f a)) : StaysLocal ids (x >>= f) := by
  intro call h
  rcases MayAsk.of_steps_bind h with h | ⟨a, h⟩
  · exact hx call h
  · exact hf a call h

lemma staysLocal_done {r : Except ε α} :
    StaysLocal ids (ExceptT.mk (.done r) : ExceptT ε (Program Api) α) :=
  fun _ h => absurd h Program.not_mayAsk_done

lemma staysLocal_pure {a : α} : StaysLocal ids (pure a : ExceptT ε (Program Api) α) :=
  staysLocal_done

lemma staysLocal_throw {e : ε} : StaysLocal ids (throw e : ExceptT ε (Program Api) α) :=
  staysLocal_done

lemma staysLocal_ask {call : Call} {next : call.Answer → Except ε α} (h : call.IsLocal ids) :
    StaysLocal ids (ExceptT.mk (.ask call fun r => .done (next r))) := by
  intro call' h'
  rcases Program.mayAsk_ask_iff.1 h' with rfl | ⟨r, h'⟩
  · exact h
  · exact absurd h' Program.not_mayAsk_done

lemma staysLocal_put {path version : String} {body : Json}
    (h : ids.IsOwn path ∨ path ∈ ids.shared) : StaysLocal ids (Steps.put path version body) :=
  staysLocal_ask h

lemma staysLocal_delete {path version : String} (h : ids.IsOwn path) :
    StaysLocal ids (Steps.delete path version) :=
  staysLocal_ask h

lemma StaysLocal.orAbsent {x : Steps α} {absent : α} (h : StaysLocal ids x) :
    StaysLocal ids (Steps.orAbsent x absent) := by
  intro call hcall
  rw [run_orAbsent] at hcall
  rcases hcall.of_bind with hcall | ⟨r, hcall⟩
  · exact h call hcall
  · exact absurd hcall Program.not_mayAsk_done

lemma StaysLocal.map {x : Steps α} {g : α → β} (h : StaysLocal ids x) :
    StaysLocal ids (g <$> x) := by
  intro call hcall
  rw [run_map] at hcall
  rcases hcall.of_bind with hcall | ⟨r, hcall⟩
  · exact h call hcall
  · exact absurd hcall Program.not_mayAsk_done

lemma StaysLocal.named {bucket operation : String} {x : Steps α} (h : StaysLocal ids x) :
    StaysLocal ids (named bucket operation x) := by
  intro call hcall
  rw [run_named] at hcall
  rcases hcall.of_bind with hcall | ⟨r, hcall⟩
  · exact h call hcall
  · exact absurd hcall Program.not_mayAsk_done

end Calls

section Changes

open ResourceIds

variable (ids : ResourceIds)

lemma isOwn_storageAccount : ids.IsOwn ids.storageAccount := .inl (isWithin_self _)

lemma isOwn_container : ids.IsOwn ids.container := by
  rw [container_eq]
  exact .inl (isWithin_below _ _)

lemma isOwn_managementPolicy : ids.IsOwn ids.managementPolicy := by
  have h : ids.managementPolicy = ids.storageAccount ++ "/" ++ "managementPolicies/default" := by
    apply String.toList_inj.1
    simp [managementPolicy, ToString.toString]
  rw [h]
  exact .inl (isWithin_below _ _)

lemma isOwn_roleAssignment (assignment : String) : ids.IsOwn (ids.roleAssignment assignment) := by
  have h : ids.roleAssignment assignment = ids.container ++ "/" ++
      ("providers/Microsoft.Authorization/roleAssignments/" ++ assignment) := by
    apply String.toList_inj.1
    simp [roleAssignment, ToString.toString]
  rw [h]
  left
  apply isWithin_below_of_isWithin
  rw [container_eq]
  exact isWithin_below _ _

lemma isOwn_privateEndpoint : ids.IsOwn ids.privateEndpoint := .inr (.inl rfl)

lemma isOwn_addressRecord : ids.IsOwn ids.addressRecord := .inr (.inr rfl)

lemma staysLocal_endpoint_ensure (location : String) (tags : StringMap String) :
    StaysLocal ids (PrivateEndpoint.ensure ids location tags) := by
  refine (staysLocal_put (.inr (by simp [shared]))).bind fun _ => ?_
  refine (staysLocal_put (.inr (by simp [shared]))).bind fun _ => ?_
  refine (staysLocal_put (.inl (isOwn_privateEndpoint ids))).bind fun _ => ?_
  refine (staysLocal_put (.inl (isOwn_addressRecord ids))).bind fun _ => ?_
  exact staysLocal_pure

lemma staysLocal_endpoint_remove : StaysLocal ids (PrivateEndpoint.remove ids) := by
  refine StaysLocal.bind (.orAbsent (staysLocal_delete (isOwn_addressRecord ids))) fun _ => ?_
  exact .orAbsent (staysLocal_delete (isOwn_privateEndpoint ids))

lemma staysLocal_putRules (rules : List Json) : StaysLocal ids (Lifecycle.putRules ids rules) :=
  (staysLocal_put (.inl (isOwn_managementPolicy ids))).bind fun _ => staysLocal_pure

lemma staysLocal_lifecycle (days : Option Int32) : StaysLocal ids (Lifecycle.apply ids days) := by
  have hcurrent : StaysLocal ids (Lifecycle.currentRules? ids) :=
    .orAbsent (.map (staysLocal_ask trivial))
  unfold Lifecycle.apply
  refine hcurrent.bind fun rules => ?_
  split
  · exact staysLocal_putRules ids _
  · exact staysLocal_pure
  · split
    · split
      · exact .orAbsent (staysLocal_delete (isOwn_managementPolicy ids))
      · exact staysLocal_putRules ids _
    · exact staysLocal_pure

lemma staysLocal_upsert (metadata : StringMap String) :
    StaysLocal ids (Container.upsert ids metadata) :=
  (staysLocal_put (.inl (isOwn_container ids))).bind fun _ => staysLocal_pure

lemma staysLocal_namespaceOf (bucket : Bucket) : StaysLocal ids (namespaceOf bucket) := by
  unfold namespaceOf
  split
  · exact staysLocal_pure
  · exact staysLocal_throw

variable (cluster : AzureContext) (bucket : Bucket)

lemma staysLocal_ensure :
    StaysLocal (.of cluster bucket.spec.name) (Storage.ensure cluster bucket) := by
  unfold Storage.ensure
  refine (staysLocal_namespaceOf _ _).bind fun namespaceName => ?_
  refine (StaysLocal.named (staysLocal_put (.inl (isOwn_storageAccount _)))).bind fun _ => ?_
  refine (StaysLocal.named (staysLocal_upsert _ _)).bind fun _ => ?_
  have hkeys : StaysLocal (.of cluster bucket.spec.name)
      (Account.accessKey? (.of cluster bucket.spec.name)) :=
    StaysLocal.bind (staysLocal_ask trivial) fun _ => staysLocal_pure
  extract_lets publish
  have hpublish : ∀ u, StaysLocal (.of cluster bucket.spec.name) (publish u) := by
    intro u
    refine hkeys.named.bind fun key => ?_
    split
    · exact staysLocal_ask trivial
    · exact staysLocal_throw
  split
  · exact (staysLocal_endpoint_ensure _ _ _).named.bind hpublish
  · exact hpublish ()

lemma staysLocal_remove :
    StaysLocal (.of cluster bucket.spec.name) (Storage.remove cluster bucket) := by
  refine (staysLocal_namespaceOf _ _).bind fun namespaceName => ?_
  refine (StaysLocal.named (staysLocal_endpoint_remove _)).bind fun _ => ?_
  refine StaysLocal.bind (.named (.orAbsent (.map (staysLocal_delete (isOwn_storageAccount _)))))
    fun _ => ?_
  exact staysLocal_ask trivial

lemma staysLocal_configure :
    StaysLocal (.of cluster bucket.spec.name) (Storage.configure cluster bucket) :=
  (StaysLocal.named (staysLocal_lifecycle _ _)).bind fun _ => .named (staysLocal_upsert _ _)

lemma staysLocal_role_remove :
    StaysLocal (.of cluster bucket.spec.name) (AccessRole.remove cluster bucket) := by
  unfold AccessRole.remove
  split
  · exact staysLocal_pure
  · exact .named (.orAbsent (staysLocal_delete (isOwn_roleAssignment _ _)))

/-- No change to a bucket leaves what belongs to it and what is shared. -/
lemma staysLocal_change (change : Reconcile.Change) :
    StaysLocal (.of cluster bucket.spec.name) (Services.azureChange cluster bucket change) := by
  cases change with
  | createBucket => exact staysLocal_ensure cluster bucket
  | updateBucket => exact staysLocal_ensure cluster bucket
  | deleteBucket => exact staysLocal_remove cluster bucket
  | configureBucket => exact staysLocal_configure cluster bucket
  | configureRole => exact staysLocal_pure
  | deleteRole => exact staysLocal_role_remove cluster bucket

end Changes

/-! ### When buckets are apart -/

section Apart

open ResourceIds

variable {cluster : AzureContext} {n m part path : String}

lemma IsOwn.notMem_shared (hpath : (of cluster n).IsOwn path) : path ∉ (of cluster n).shared := by
  intro hshared
  have h := isWithin_shared hshared hpath
  rw [isWithin_self] at h
  cases h

lemma isOwn_of_mem_own (hpart : part ∈ (of cluster n).own) : (of cluster n).IsOwn part := by
  simp only [own, List.mem_cons, List.not_mem_nil, or_false] at hpart
  rcases hpart with rfl | rfl | rfl | rfl
  · exact isOwn_storageAccount _
  · exact isOwn_container _
  · exact isOwn_privateEndpoint _
  · exact isOwn_addressRecord _

lemma spares_of_apart {bucket : Bucket} (haccount : accountName bucket.spec.name ≠ accountName m)
    (hendpoint : ¬ Server.isWithin m bucket.spec.name = true) : Spares cluster bucket m where
  own change call path hcall htarget hshared part hpart := by
    have hown : (of cluster bucket.spec.name).IsOwn path := by
      have hlocal := staysLocal_change cluster bucket change call hcall
      cases call with
      | put p version body =>
        cases htarget
        exact hlocal.resolve_right hshared
      | delete p version =>
        cases htarget
        exact hlocal
      | _ => cases htarget
    rw [← Bool.not_eq_true]
    intro hwithin
    rcases shares_of_isWithin hpart hown hwithin with h | h
    · exact haccount h
    · exact hendpoint h
  shared change path version hcall part hpart :=
    isWithin_shared hpart (staysLocal_change cluster bucket change _ hcall)

/-- A record of a bucket of some name, to be deleted. -/
def tenant (name : String) : Bucket := { doomed with spec.name := name }

lemma tenant_deletes_endpoint (cluster : AzureContext) (name : String) :
    MayAsk (ExceptT.run (Services.azureChange cluster (tenant name) .deleteBucket))
      (.delete (of cluster name).privateEndpoint networkVersion) :=
  ⟨[⟨.delete (of cluster name).addressRecord privateDnsVersion, .ok ()⟩], _,
    .answered (.here _)⟩

lemma tenant_deletes_account (cluster : AzureContext) (name : String) :
    MayAsk (ExceptT.run (Services.azureChange cluster (tenant name) .deleteBucket))
      (.delete (of cluster name).storageAccount storageVersion) :=
  ⟨[⟨.delete (of cluster name).addressRecord privateDnsVersion, .ok ()⟩,
    ⟨.delete (of cluster name).privateEndpoint networkVersion, .ok ()⟩], _,
    .answered (.answered (.here _))⟩

/-- A bucket that a tenant spares has an account of another name. -/
lemma accountName_ne_of_spares (h : Spares cluster (tenant n) m) :
    accountName n ≠ accountName m := by
  intro heq
  have haccount : (of cluster m).storageAccount = (of cluster n).storageAccount := by
    rw [storageAccount, storageAccount, accountName_of, accountName_of, heq]
    rfl
  have hspared := h.own .deleteBucket _ _ (tenant_deletes_account cluster n) rfl
    (IsOwn.notMem_shared (isOwn_storageAccount _)) (of cluster m).storageAccount (by simp [own])
  rw [haccount] at hspared
  rw [isWithin_self] at hspared
  cases hspared

/-- The endpoint of a bucket that a tenant spares is not below the tenant's. -/
lemma not_isWithin_of_spares (h : Spares cluster (tenant n) m) :
    ¬ Server.isWithin m n = true := by
  intro hwithin
  have hspared := h.own .deleteBucket _ _ (tenant_deletes_endpoint cluster n) rfl
    (IsOwn.notMem_shared (isOwn_privateEndpoint _)) (of cluster m).privateEndpoint (by simp [own])
  rw [← Bool.not_eq_true, isWithin_iff_slashed] at hspared
  apply hspared
  rw [isWithin_iff_slashed] at hwithin
  have hgroup : (of cluster m).group = (of cluster n).group := rfl
  simpa [privateEndpoint, hgroup, bucketName_of, ToString.toString] using hwithin

/-- The changes to a bucket leave another one alone exactly if the two have accounts of different
names and the endpoint of the other is not below that of the bucket. -/
theorem spares_iff (cluster : AzureContext) (n m : String) :
    (∀ bucket : Bucket, bucket.spec.name = n → Spares cluster bucket m) ↔
      accountName n ≠ accountName m ∧ ¬ Server.isWithin m n = true := by
  constructor
  · intro h
    have htenant := h (tenant n) rfl
    exact ⟨accountName_ne_of_spares htenant, not_isWithin_of_spares htenant⟩
  · rintro ⟨haccount, hendpoint⟩ bucket rfl
    exact spares_of_apart haccount hendpoint

/-- The names of accounts forget hyphens. -/
lemma accountName_hyphen : accountName "my-bucket" = accountName "mybucket" := by
  decide

/-- Deleting a bucket may delete the account of another one. -/
theorem hyphen_shares_account :
    ¬ ∀ (cluster : AzureContext) (bucket other : Bucket),
      bucket.spec.name ≠ other.spec.name → Spares cluster bucket other.spec.name := by
  intro h
  have hspares := h default (tenant "my-bucket") (tenant "mybucket") (by decide)
  exact accountName_ne_of_spares hspares accountName_hyphen

end Apart

/-! ### What a spared bucket keeps -/

section Kept

variable {cluster : AzureContext} {bucket : Bucket} {other part : String}

/-- A call that does not change a resource. -/
def Call.Leaves (part : String) : Call → Prop
  | .put path _ _ => part ≠ path
  | .delete path _ => Server.isWithin part path = false
  | _ => True

lemma get?_eq_of_leaves {e e' : Estate} {call : Call} {r : call.Answer}
    (h : e.Answers call r e') (hcall : call.Leaves part) :
    e'.resources.get? part = e.resources.get? part := by
  cases call with
  | get path version => rw [h.1]
  | put path version body =>
    rcases h with rfl | ⟨_, rfl⟩
    · exact (StringMap.get?_insert ..).trans (if_neg hcall)
    · rfl
  | post path version => rw [show e' = e from h]
  | delete path version =>
    rcases h.1 with rfl | ⟨_, rfl⟩
    · refine (StringMap.get?_filter_key _ (fun p => !Server.isWithin p path) part).trans ?_
      rw [show Server.isWithin part path = false from hcall]
      rfl
    · rfl
  | applySecret =>
    rcases h with rfl | ⟨_, rfl⟩ <;> rfl
  | deleteSecret =>
    rcases h with rfl | ⟨_, rfl⟩ <;> rfl

lemma Spares.leaves (h : Spares cluster bucket other) {change : Reconcile.Change} {call : Call}
    (hcall : MayAsk (ExceptT.run (Services.azureChange cluster bucket change)) call)
    (hpart : part ∈ (ResourceIds.of cluster other).own) : call.Leaves part := by
  cases call with
  | put path version body =>
    rintro rfl
    by_cases hshared : part ∈ (ResourceIds.of cluster bucket.spec.name).shared
    · exact IsOwn.notMem_shared (isOwn_of_mem_own hpart) hshared
    · have hwithin := h.own change _ _ hcall rfl hshared _ hpart
      rw [isWithin_self] at hwithin
      cases hwithin
  | delete path version =>
    refine h.own change _ _ hcall rfl ?_ _ hpart
    intro hshared
    have hwithin := h.shared change _ _ hcall path hshared
    rw [isWithin_self] at hwithin
    cases hwithin
  | _ => trivial

/-- However far a change to a bucket gets, the resources of a bucket that it spares are as they
were. -/
theorem Spares.kept (h : Spares cluster bucket other) {change : Reconcile.Change}
    {t : Trace Api} {rest : Program Api (Except BucketOperator.Failure Unit)} {e e' : Estate}
    (hrest : (ExceptT.run (Services.azureChange cluster bucket change)).After t rest)
    (ht : Along managed e t e') (hpart : part ∈ (ResourceIds.of cluster other).own) :
    e'.resources.get? part = e.resources.get? part := by
  have hleaves : ∀ exchange ∈ t, exchange.call.Leaves part :=
    fun exchange hmem => h.leaves (hrest.mayAsk exchange hmem) hpart
  clear hrest
  induction ht with
  | nil => rfl
  | cons hr _ ih =>
    rw [ih fun exchange hmem => hleaves exchange (List.mem_cons_of_mem _ hmem)]
    exact get?_eq_of_leaves hr (hleaves _ List.mem_cons_self)

end Kept

end BucketOperator.Azure
