import BucketOperator.Proofs.Azure.Estate
import BucketOperator.Proofs.Json.Members
import BucketOperator.Proofs.Program.Repetition
import BucketOperator.Reconcile.Serve
import Mathlib.Logic.Function.Basic

/-!
# Putting a bucket in place on Azure

Creating and updating a bucket ask for the same: the account, the container, on private clusters
what leads to the account, and last the secret. Each call is made only if all before it succeeded,
and each replaces what was there. So what is stored after a run that succeeds is what that run asked
for, whatever runs before it left behind.
-/

namespace BucketOperator.Azure

open Function (update update_self update_of_ne)
open Program (Brings)
open Reconcile (Change Services)

/-! ### What is stored -/

/-- The bodies of resources by their paths, and account and key of secrets by namespace and name. -/
structure Stock where
  body : String → Option Json
  secret : String × String → Option (String × String)

/-- Nothing is stored. -/
def Stock.empty : Stock := ⟨fun _ => none, fun _ => none⟩

/-- What a call makes of what is stored. -/
def Stock.after (s : Stock) : Call → Stock
  | .put path _ body => { s with body := update s.body path (some body) }
  | .delete path _ => { s with body := fun p => if Server.isWithin p path then none else s.body p }
  | .applySecret namespaceName name accountName accountKey =>
    { s with secret := update s.secret (namespaceName, name) (some (accountName, accountKey)) }
  | .deleteSecret namespaceName name =>
    { s with secret := update s.secret (namespaceName, name) none }
  | _ => s

/-- Whether a call was answered with success. -/
def Call.isGranted : (c : Call) → c.Answer → Bool
  | .get .., (r : Except Failure Json) => r.isOk
  | .put .., (r : Except Failure Json) => r.isOk
  | .post .., (r : Except Failure Json) => r.isOk
  | .delete .., (r : Except Failure Unit) => r.isOk
  | .applySecret .., (r : Except BucketOperator.Failure Unit) => r.isOk
  | .deleteSecret .., (r : Except BucketOperator.Failure Unit) => r.isOk

/-- All calls of a trace were answered with success. -/
def IsGranted (t : Trace Api) : Prop := ∀ e ∈ t, e.call.isGranted e.answer = true

lemma IsGranted.concat {t : Trace Api} {c : Call} {r : c.Answer} (ht : IsGranted t)
    (hr : c.isGranted r = true) : IsGranted (t ++ [⟨c, r⟩]) := by
  intro e he
  rcases List.mem_append.1 he with he | he
  · exact ht e he
  · rw [List.mem_singleton.1 he]
    exact hr

/-- Resource Manager and the secrets as a world. A call that fails may have had its effect. -/
def keeping : Behaviour Api Stock := fun s c r s' =>
  s' = s.after c ∨ c.isGranted r = false ∧ s' = s

/-! ### What answers tell -/

/-- The addresses of an endpoint: the texts in the address lists of its DNS configurations, in
order. Whatever else stands in these places is passed over. -/
def addressesOf (endpoint : Json) : List String :=
  let configs := Json.itemsOf ((endpoint.get? "properties").bind (·.get? "customDnsConfigs"))
  configs.flatMap fun config =>
    (Json.itemsOf (config.get? "ipAddresses")).filterMap fun item => Json.textOf (some item)

/-- A listing of keys tells the value of a name: that of the first key of this name. -/
def TellsKey (listing : Json) (name value : String) : Prop :=
  ∃ before key after, listing.get? "keys" = some (.array (before ++ key :: after)) ∧
    (∀ other ∈ before, other.get? "keyName" ≠ some (.string name)) ∧
    key.get? "keyName" = some (.string name) ∧ key.get? "value" = some (.string value)

/-- The document of an address record. -/
def recordOf (addresses : List String) (tags : StringMap String) : Json :=
  .object [
    ("properties", .object [
      ("aRecords",
        .array (addresses.map fun address => .object [("ipv4Address", .string address)])),
      ("metadata", .ofStringMap tags),
      ("ttl", .number (.integer 3600))])]

lemma addresses_eq (endpoint : Json) :
    PrivateEndpoint.addresses endpoint = addressesOf endpoint := by
  have hpath : endpoint.path? ["properties", "customDnsConfigs"] =
      (endpoint.get? "properties").bind (·.get? "customDnsConfigs") := by
    simp only [Json.path?, Option.bind_fun_some]
  rw [PrivateEndpoint.addresses, addressesOf, Json.getD_array?, hpath]
  generalize Json.itemsOf _ = configs
  induction configs with
  | nil => rfl
  | cons config configs ih =>
    rw [List.flatMap_cons, ← ih, ← Json.getD_array?, List.filterMap_cons]
    simp only [← Json.bind_string?]
    cases (config.get? "ipAddresses").bind Json.array? with
    | none => rfl
    | some items => exact List.filterMap_append

lemma recordBody_eq (endpoint : Json) (tags : StringMap String) :
    PrivateEndpoint.recordBody (PrivateEndpoint.addresses endpoint) tags =
      recordOf (addressesOf endpoint) tags := by
  rw [addresses_eq]
  rfl

/-- The first key of a name has no key of this name before it. -/
lemma find?_keyName_iff {items : List Json} {name : String} {key : Json} :
    items.find? (fun key => (key.get? "keyName").bind Json.string? == some name) = some key ↔
      key.get? "keyName" = some (.string name) ∧ ∃ before after, items = before ++ key :: after ∧
        ∀ other ∈ before, other.get? "keyName" ≠ some (.string name) := by
  simp only [List.find?_eq_some_iff_append, beq_iff_eq, Json.bind_string?, Json.textOf_eq_some_iff,
    Bool.not_eq_true', beq_eq_false_iff_ne, ne_eq]

lemma findKey?_eq_some_iff {listing : Json} {name value : String} :
    Account.findKey? listing name = some value ↔ TellsKey listing name value := by
  constructor
  · intro h
    simp only [Account.findKey?, Option.bind_eq_bind, Option.bind_eq_some_iff] at h
    obtain ⟨_, hkeys, items, hitems, key, hkey, found, hfound, hvalue⟩ := h
    rw [Json.array?_eq_some_iff.1 hitems] at hkeys
    obtain ⟨hname, before, after, rfl, hbefore⟩ := find?_keyName_iff.1 hkey
    refine ⟨before, key, after, hkeys, hbefore, hname, ?_⟩
    rw [← Json.textOf_eq_some_iff, ← Json.bind_string?, hfound]
    exact hvalue
  · rintro ⟨before, key, after, hkeys, hbefore, hname, hvalue⟩
    have hkey := find?_keyName_iff.2 ⟨hname, before, after, rfl, hbefore⟩
    simp [Account.findKey?, hkeys, Json.array?, hkey, hvalue, Json.string?]

/-! ### What a bucket takes -/

/-- A resource with the body it is to have. -/
structure Put where
  path : String
  version : String
  body : Json

def Put.call (put : Put) : Call := .put put.path put.version put.body

/-- What leads to the account on a private cluster. -/
def ResourceIds.network (ids : ResourceIds) : List String :=
  [ids.privateZone, ids.vnetLink, ids.privateEndpoint, ids.addressRecord]

/-- No two resources of a bucket have the same path. -/
lemma ResourceIds.nodup_paths (ids : ResourceIds) :
    ([ids.storageAccount, ids.container] ++ ids.network).Nodup := by
  simp only [network, ← String.toList_inj, List.cons_append, List.nil_append, List.nodup_cons,
    List.mem_cons, List.not_mem_nil, or_false]
  simp [storageAccount, container, privateZone, vnetLink, privateEndpoint, addressRecord,
    ToString.toString]

namespace Storage

variable (cluster : AzureContext) (bucket : Bucket)

/-- The account and the container. -/
def basePuts : List Put :=
  let ids := ResourceIds.of cluster bucket.spec.name
  let tags := tags cluster bucket
  [⟨ids.storageAccount, storageVersion, Account.body cluster.region cluster.isPrivate tags⟩,
    ⟨ids.container, storageVersion, Container.body tags⟩]

/-- What leads to the account. The address record goes by what was answered about the endpoint. -/
def networkPuts (endpoint : Json) : List Put :=
  let ids := ResourceIds.of cluster bucket.spec.name
  let tags := tags cluster bucket
  [⟨ids.privateZone, privateDnsVersion, PrivateEndpoint.zoneBody tags⟩,
    ⟨ids.vnetLink, privateDnsVersion, PrivateEndpoint.linkBody ids.vnet tags⟩,
    ⟨ids.privateEndpoint, networkVersion, PrivateEndpoint.endpointBody ids cluster.region tags⟩,
    ⟨ids.addressRecord, privateDnsVersion, recordOf (addressesOf endpoint) tags⟩]

/-- All resources of a bucket, in the order in which they are put in place. -/
def puts (endpoint : Json) : List Put :=
  basePuts cluster bucket ++ if cluster.isPrivate then networkPuts cluster bucket endpoint else []

/-- The secret is written with the key of the account, if there is one. -/
def deliver (namespaceName : String) (key? : Option String) : Operation Unit :=
  let name := bucket.spec.name
  let ids := ResourceIds.of cluster name
  match key? with
  | some key => applySecret namespaceName name ids.accountName key
  | none =>
    throw (.provider name "list storage account keys"
      (.text s!"access key '{Account.keyName}' not found on storage account {ids.accountName}"))

/-- The end of putting a bucket in place. -/
def publish (namespaceName : String) : Operation Unit := do
  let ids := ResourceIds.of cluster bucket.spec.name
  deliver cluster bucket namespaceName
    (← named bucket.spec.name "list storage account keys" (Account.accessKey? ids))

/-- What follows the account and the container. -/
def connect (namespaceName : String) : Operation Unit := do
  let name := bucket.spec.name
  if cluster.isPrivate then
    named name "ensure private endpoint"
      (PrivateEndpoint.ensure (.of cluster name) cluster.region (tags cluster bucket))
    publish cluster bucket namespaceName
  else publish cluster bucket namespaceName

end Storage

/-- The changes that put a bucket in place. -/
def IsUpsert (change : Change) : Prop := change = .createBucket ∨ change = .updateBucket

/-- A run of creating or updating a bucket, wherever it stops. -/
def Upserts (cluster : AzureContext) (bucket : Bucket) (s s' : Stock) : Prop :=
  ∃ change, IsUpsert change ∧
    Brings keeping (ExceptT.run (Services.azureChange cluster bucket change)) s s'

/-- A bucket is in place: its resources are as they are wanted, and its secret holds the account
with a key. -/
structure IsProvisioned (cluster : AzureContext) (bucket : Bucket) (namespaceName : String)
    (endpoint : Json) (key : String) (s : Stock) : Prop where
  resources : ∀ put ∈ Storage.puts cluster bucket endpoint, s.body put.path = some put.body
  secret : s.secret (namespaceName, bucket.spec.name) =
    some ((ResourceIds.of cluster bucket.spec.name).accountName, key)

/-! ### What a run has been through -/

section Stages

variable (cluster : AzureContext) (bucket : Bucket)

/-- All resources of a bucket were put in place, with what was answered about the endpoint. -/
structure IsBuilt (t : Trace Api) (endpoint : Json) : Prop where
  calls : t.map (·.call) = (Storage.puts cluster bucket endpoint).map Put.call
  granted : IsGranted t
  answered : cluster.isPrivate = true →
    let ids := ResourceIds.of cluster bucket.spec.name
    let body := PrivateEndpoint.endpointBody ids cluster.region (Storage.tags cluster bucket)
    (⟨.put ids.privateEndpoint networkVersion body, .ok endpoint⟩ : Exchange Api) ∈ t

/-- Then the keys of the account were listed, and the one for workloads is among them. -/
def IsPrepared (t : Trace Api) (endpoint : Json) (key : String) : Prop :=
  ∃ built keys, IsBuilt cluster bucket built endpoint ∧
    TellsKey keys "key1" key ∧
    t = built ++
      [⟨.post (ResourceIds.of cluster bucket.spec.name).listKeys storageVersion, .ok keys⟩]

/-- What is asked, and what was granted before that. -/
def IsInTurn (t : Trace Api) : Call → Prop
  | .put path version body =>
    IsGranted t ∧ ∃ endpoint, t.map (·.call) ++ [.put path version body] <+:
      (Storage.puts cluster bucket endpoint).map Put.call
  | .post path version =>
    path = (ResourceIds.of cluster bucket.spec.name).listKeys ∧ version = storageVersion ∧
      ∃ endpoint, IsBuilt cluster bucket t endpoint
  | .applySecret namespaceName name accountName key =>
    bucket.metadata.namespaceName = some namespaceName ∧ name = bucket.spec.name ∧
      accountName = (ResourceIds.of cluster bucket.spec.name).accountName ∧
      ∃ endpoint, IsPrepared cluster bucket t endpoint key
  | _ => False

/-- How a run ends: it returns, and if it succeeds it has written the secret. -/
def EndsPublished (t : Trace Api) (o : Option (Except BucketOperator.Failure Unit)) : Prop :=
  o ≠ none ∧ (o = some (.ok ()) → ∃ namespaceName before endpoint key,
    bucket.metadata.namespaceName = some namespaceName ∧
    IsPrepared cluster bucket before endpoint key ∧
    t = before ++ [⟨.applySecret namespaceName bucket.spec.name
      (ResourceIds.of cluster bucket.spec.name).accountName key, .ok ()⟩])

end Stages

def Call.IsSecret : Call → Prop
  | .applySecret .. => True
  | _ => False

section Runs

variable {cluster : AzureContext} {bucket : Bucket} {change : Change} {namespaceName : String}
  {s s' : Stock} {t : Trace Api} {endpoint : Json} {key : String} {c : Call}

lemma azureChange_eq (h : IsUpsert change) :
    Services.azureChange cluster bucket change = Storage.ensure cluster bucket := by
  rcases h with rfl | rfl <;> rfl

/-- Without a namespace nothing is asked. -/
lemma ensure_eq_throw (h : bucket.metadata.namespaceName = none) :
    Storage.ensure cluster bucket =
      throw (.invalidBucket bucket.metadata.anyName "bucket has no namespace") := by
  unfold Storage.ensure namespaceOf
  rw [h]
  rfl

lemma ensure_eq (h : bucket.metadata.namespaceName = some namespaceName) :
    Storage.ensure cluster bucket = (do
      let name := bucket.spec.name
      let ids := ResourceIds.of cluster name
      let tags := Storage.tags cluster bucket
      let _ ← named name "upsert storage account"
        (Account.upsert ids (Account.body cluster.region cluster.isPrivate tags))
      named name "upsert blob container" (Container.upsert ids tags)
      Storage.connect cluster bucket namespaceName) := by
  unfold Storage.ensure namespaceOf
  rw [h]
  rfl

/-! ### The order of a run -/

lemma endsPublished_error {failure : BucketOperator.Failure} :
    EndsPublished cluster bucket t (some (.error failure)) := ⟨nofun, nofun⟩

/-- Once all resources were put in place, the secret is written with the key that is found. -/
lemma asksInTurn_publish (hnamespace : bucket.metadata.namespaceName = some namespaceName)
    (hbuilt : IsBuilt cluster bucket t endpoint) :
    (ExceptT.run (Storage.publish cluster bucket namespaceName)).Ensures (Program.recorded Api)
      (IsInTurn cluster bucket) (EndsPublished cluster bucket) t := by
  refine ⟨⟨rfl, rfl, endpoint, hbuilt⟩, ?_⟩
  rintro (r : Except Failure Json) t' rfl
  cases r with
  | error failure => exact endsPublished_error
  | ok keys =>
    change (ExceptT.run (Storage.deliver cluster bucket namespaceName
      (Account.findKey? keys Account.keyName))).Ensures _ _ _ _
    cases hkey : Account.findKey? keys Account.keyName with
    | none => exact endsPublished_error
    | some key =>
      have hprepared : IsPrepared cluster bucket (t ++
          [⟨.post (ResourceIds.of cluster bucket.spec.name).listKeys storageVersion, .ok keys⟩])
          endpoint key := ⟨t, keys, hbuilt, findKey?_eq_some_iff.1 hkey, rfl⟩
      refine ⟨⟨hnamespace, rfl, rfl, endpoint, hprepared⟩, ?_⟩
      rintro (r : Except BucketOperator.Failure Unit) t' rfl
      cases r with
      | error failure => exact endsPublished_error
      | ok u =>
        refine ⟨nofun, fun _ => ?_⟩
        exact ⟨namespaceName, _, endpoint, key, hnamespace, hprepared, rfl⟩

/-- A resource is put in place, and a run goes on only with success. -/
lemma asksInTurn_put {path version : String} {body : Json} (endpoint : Json)
    {p : Except Failure Json → Program Api (Except BucketOperator.Failure Unit)}
    (ht : IsGranted t) (hnext : t.map (·.call) ++ [.put path version body] <+:
      (Storage.puts cluster bucket endpoint).map Put.call)
    (hok : ∀ v, IsGranted (t ++ [⟨.put path version body, .ok v⟩]) →
      (p (.ok v)).Ensures (Program.recorded Api) (IsInTurn cluster bucket)
        (EndsPublished cluster bucket) (t ++ [⟨.put path version body, .ok v⟩]))
    (herror : ∀ failure, ∃ f, p (.error failure) = .done (.error f)) :
    (Program.ask (I := Api) (.put path version body) p).Ensures (Program.recorded Api)
      (IsInTurn cluster bucket) (EndsPublished cluster bucket) t := by
  refine ⟨⟨ht, endpoint, hnext⟩, ?_⟩
  rintro (r : Except Failure Json) t' rfl
  cases r with
  | ok v => exact hok v (ht.concat rfl)
  | error failure =>
    obtain ⟨f, hf⟩ := herror failure
    rw [hf]
    exact endsPublished_error

/-- What leads to an account is put in place after the account and the container. -/
lemma asksInTurn_connect (hnamespace : bucket.metadata.namespaceName = some namespaceName)
    (ht : IsGranted t)
    (hcalls : t.map (·.call) = (Storage.basePuts cluster bucket).map Put.call) :
    (ExceptT.run (Storage.connect cluster bucket namespaceName)).Ensures (Program.recorded Api)
      (IsInTurn cluster bucket) (EndsPublished cluster bucket) t := by
  unfold Storage.connect
  by_cases hprivate : cluster.isPrivate = true
  · have hputs : ∀ endpoint, Storage.puts cluster bucket endpoint =
        Storage.basePuts cluster bucket ++ Storage.networkPuts cluster bucket endpoint := by
      simp [Storage.puts, hprivate]
    rw [if_pos hprivate]
    refine asksInTurn_put .null ht ?_ ?_ fun failure => ⟨_, rfl⟩
    · simp [hcalls, hputs, Storage.networkPuts, Put.call]
    intro zone hzone
    refine asksInTurn_put .null hzone ?_ ?_ fun failure => ⟨_, rfl⟩
    · simp [hcalls, hputs, Storage.networkPuts, Put.call]
    intro link hlink
    refine asksInTurn_put .null hlink ?_ ?_ fun failure => ⟨_, rfl⟩
    · simp [hcalls, hputs, Storage.networkPuts, Put.call]
    -- From here on the calls depend on what was answered about the endpoint.
    intro endpoint hendpoint
    refine asksInTurn_put endpoint hendpoint ?_ ?_ fun failure => ⟨_, rfl⟩
    · simp [hcalls, hputs, Storage.networkPuts, Put.call, recordBody_eq]
    intro record hrecord
    have hbuilt : IsBuilt cluster bucket _ endpoint :=
      ⟨by simp [hcalls, hputs, Storage.networkPuts, Put.call, recordBody_eq], hrecord, by simp⟩
    exact asksInTurn_publish hnamespace hbuilt
  · rw [if_neg hprivate]
    have hbuilt : IsBuilt cluster bucket t .null :=
      ⟨by simp [hcalls, Storage.puts, hprivate], ht, fun h => absurd h hprivate⟩
    exact asksInTurn_publish hnamespace hbuilt

/-- A run puts everything in place in turn, and the secret last. -/
theorem asksInTurn_ensure (cluster : AzureContext)
    (hnamespace : bucket.metadata.namespaceName = some namespaceName) :
    (ExceptT.run (Storage.ensure cluster bucket)).Ensures (Program.recorded Api)
      (IsInTurn cluster bucket) (EndsPublished cluster bucket) [] := by
  rw [ensure_eq hnamespace]
  refine asksInTurn_put .null nofun ?_ ?_ fun failure => ⟨_, rfl⟩
  · simp [Storage.puts, Storage.basePuts, Put.call]
  intro account haccount
  refine asksInTurn_put .null haccount ?_ ?_ fun failure => ⟨_, rfl⟩
  · simp [Storage.puts, Storage.basePuts, Put.call]
  intro container hcontainer
  exact asksInTurn_connect hnamespace hcontainer (by simp [Storage.basePuts, Put.call])

/-! ### The secret comes last -/

lemma IsBuilt.not_isSecret (h : IsBuilt cluster bucket t endpoint) :
    ∀ e ∈ t, ¬ e.call.IsSecret := by
  intro e he
  have hmem : e.call ∈ (Storage.puts cluster bucket endpoint).map Put.call := by
    rw [← h.calls]
    exact List.mem_map_of_mem he
  obtain ⟨put, -, hput⟩ := List.mem_map.1 hmem
  rw [← hput]
  exact id

lemma IsPrepared.not_isSecret (h : IsPrepared cluster bucket t endpoint key) :
    ∀ e ∈ t, ¬ e.call.IsSecret := by
  obtain ⟨built, keys, hbuilt, -, rfl⟩ := h
  intro e he
  rcases List.mem_append.1 he with he | he
  · exact hbuilt.not_isSecret e he
  · rw [List.mem_singleton.1 he]
    exact id

/-- Nothing is asked after a secret was written. -/
lemma IsInTurn.not_isSecret (h : IsInTurn cluster bucket t c) : ∀ e ∈ t, ¬ e.call.IsSecret := by
  cases c with
  | put path version body =>
    obtain ⟨-, endpoint, hnext⟩ := h
    intro e he
    have hmem := hnext.subset (List.mem_append_left _ (List.mem_map_of_mem he))
    obtain ⟨put, -, hput⟩ := List.mem_map.1 hmem
    rw [← hput]
    exact id
  | post path version =>
    obtain ⟨-, -, endpoint, hbuilt⟩ := h
    exact hbuilt.not_isSecret
  | applySecret namespaceName name accountName key =>
    obtain ⟨-, -, -, endpoint, hprepared⟩ := h
    exact hprepared.not_isSecret
  | _ => exact h.elim

/-- Every call of a run is made in turn, and the secret last. -/
theorem asked_in_turn {before after : Trace Api} {r : c.Answer}
    {q : Program Api (Except BucketOperator.Failure Unit)} (hchange : IsUpsert change)
    (hq : (ExceptT.run (Services.azureChange cluster bucket change)).After
      (before ++ ⟨c, r⟩ :: after) q) :
    IsInTurn cluster bucket before c ∧ (c.IsSecret → after = [] ∧ ∃ o, q = .done o) := by
  rw [azureChange_eq hchange] at hq
  cases hnamespace : bucket.metadata.namespaceName with
  | none =>
    rw [ensure_eq_throw hnamespace] at hq
    have hnil := (Program.after_done_iff.1 hq).1
    simp at hnil
  | some namespaceName =>
    have hturn := asksInTurn_ensure cluster hnamespace
    refine ⟨hturn.asked hq, fun hsecret => ?_⟩
    -- A call after this one would find a secret before it.
    have hlast : ∀ c', ¬ IsInTurn cluster bucket (before ++ [⟨c, r⟩]) c' :=
      fun c' h => h.not_isSecret ⟨c, r⟩ (by simp) hsecret
    cases after with
    | cons e after =>
      rw [List.append_cons] at hq
      exact absurd (hturn.asked hq) (hlast e.call)
    | nil =>
      refine ⟨rfl, ?_⟩
      have hended := hturn.ended hq
      cases q with
      | done o => exact ⟨o, rfl⟩
      | ask c' next => exact absurd hended.1 (hlast c')
      | cut => exact absurd rfl hended.1

/-! ### What is stored after a run -/

/-- Every call may have its effect, whatever it is answered. -/
lemma along_foldl (t : Trace Api) (s : Stock) :
    Along keeping s t ((t.map (·.call)).foldl Stock.after s) := by
  induction t generalizing s with
  | nil => exact .nil s
  | cons e t ih => exact .cons (.inl rfl) (ih _)

/-- Where every call is granted, each has its effect. -/
lemma eq_foldl_of_isGranted (h : Along keeping s t s') (ht : IsGranted t) :
    s' = (t.map (·.call)).foldl Stock.after s := by
  induction h with
  | nil s => rfl
  | cons hr _ ih =>
    rcases hr with rfl | ⟨hfailed, -⟩
    · exact ih fun e he => ht e (List.mem_cons_of_mem _ he)
    · rw [ht _ List.mem_cons_self] at hfailed
      cases hfailed

lemma body_foldl_of_notMem {puts : List Put} {path : String} (h : path ∉ puts.map (·.path)) :
    ((puts.map Put.call).foldl Stock.after s).body path = s.body path := by
  induction puts generalizing s with
  | nil => rfl
  | cons put puts ih =>
    obtain ⟨hput, hputs⟩ := not_or.1 (mt List.mem_cons.2 h)
    rw [List.map_cons, List.foldl_cons, ih hputs]
    exact update_of_ne hput _ _

/-- Each of several resources is stored as it was put, if no other one was put in its place. -/
lemma body_foldl_of_mem {puts : List Put} {put : Put} (hnodup : (puts.map (·.path)).Nodup)
    (h : put ∈ puts) :
    ((puts.map Put.call).foldl Stock.after s).body put.path = some put.body := by
  induction puts generalizing s with
  | nil => cases h
  | cons first puts ih =>
    obtain ⟨hfirst, hputs⟩ := List.nodup_cons.1 hnodup
    rw [List.map_cons, List.foldl_cons]
    rcases List.mem_cons.1 h with rfl | h
    · rw [body_foldl_of_notMem hfirst]
      exact update_self _ _ _
    · exact ih hputs h

lemma map_path_puts : (Storage.puts cluster bucket endpoint).map (·.path) =
    let ids := ResourceIds.of cluster bucket.spec.name
    [ids.storageAccount, ids.container] ++ if cluster.isPrivate then ids.network else [] := by
  unfold Storage.puts
  split <;> rfl

lemma nodup_puts : ((Storage.puts cluster bucket endpoint).map (·.path)).Nodup := by
  have hnodup := (ResourceIds.of cluster bucket.spec.name).nodup_paths
  rw [map_path_puts]
  split
  · exact hnodup
  · rw [List.append_nil]
    exact hnodup.sublist (List.sublist_append_left _ _)

/-- On a public cluster, nothing that leads to an account is put in place. -/
lemma notMem_puts_of_mem_network {path : String} (hpublic : cluster.isPrivate = false)
    (hpath : path ∈ (ResourceIds.of cluster bucket.spec.name).network) :
    path ∉ (Storage.puts cluster bucket endpoint).map (·.path) := by
  have hnodup := (ResourceIds.of cluster bucket.spec.name).nodup_paths
  simp only [map_path_puts, hpublic, Bool.false_eq_true, if_false, List.append_nil]
  intro hmem
  exact (List.nodup_append.1 hnodup).2.2 path hmem path hpath rfl

/-- All but the address record is the same whatever is answered about the endpoint. -/
lemma mem_puts_of_ne {put : Put} {endpoint' : Json}
    (h : put ∈ Storage.puts cluster bucket endpoint)
    (hpath : put.path ≠ (ResourceIds.of cluster bucket.spec.name).addressRecord) :
    put ∈ Storage.puts cluster bucket endpoint' := by
  simp only [Storage.puts, List.mem_append] at h ⊢
  refine h.imp_right ?_
  by_cases hprivate : cluster.isPrivate = true
  · rw [if_pos hprivate, if_pos hprivate]
    simp only [Storage.networkPuts, List.mem_cons, List.not_mem_nil, or_false]
    rintro (h | h | h | rfl)
    · exact .inl h
    · exact .inr (.inl h)
    · exact .inr (.inr (.inl h))
    · exact absurd rfl hpath
  · rw [if_neg hprivate, if_neg hprivate]
    exact id

/-- What a run that succeeds leaves behind. -/
theorem isProvisioned_of_isPrepared {accountName : String}
    (haccount : accountName = (ResourceIds.of cluster bucket.spec.name).accountName)
    (hprepared : IsPrepared cluster bucket t endpoint key)
    (hworld : Along keeping s (t ++
      [⟨.applySecret namespaceName bucket.spec.name accountName key, .ok ()⟩]) s') :
    IsProvisioned cluster bucket namespaceName endpoint key s' := by
  subst haccount
  obtain ⟨built, keys, hbuilt, -, rfl⟩ := hprepared
  rw [eq_foldl_of_isGranted hworld ((hbuilt.granted.concat rfl).concat rfl)]
  simp only [List.map_append, hbuilt.calls, List.foldl_append]
  constructor
  · intro put hput
    exact body_foldl_of_mem nodup_puts hput
  · exact update_self _ _ _

/-- What no call of a run puts in place is not changed by it. -/
lemma IsInTurn.body_after {path : String} (h : IsInTurn cluster bucket t c)
    (hpath : ∀ endpoint, path ∉ (Storage.puts cluster bucket endpoint).map (·.path)) :
    (s.after c).body path = s.body path := by
  cases c with
  | put path' version body =>
    obtain ⟨-, endpoint, hnext⟩ := h
    obtain ⟨put, hput, heq⟩ := List.mem_map.1 (hnext.subset (List.mem_append_right _ (.head _)))
    cases heq
    refine update_of_ne ?_ _ _
    rintro rfl
    exact hpath endpoint (List.mem_map_of_mem hput)
  | post path' version => rfl
  | applySecret namespaceName name accountName key => rfl
  | _ => exact h.elim

lemma body_along {path : String} (h : Along keeping s t s')
    (ht : ∀ e ∈ t, ∀ s : Stock, (s.after e.call).body path = s.body path) :
    s'.body path = s.body path := by
  induction h with
  | nil s => rfl
  | cons hr _ ih =>
    rw [ih fun e he => ht e (List.mem_cons_of_mem _ he)]
    rcases hr with rfl | ⟨-, rfl⟩
    · exact ht _ List.mem_cons_self _
    · rfl

lemma Upserts.body_of_notMem {path : String} (h : Upserts cluster bucket s s')
    (hpath : ∀ endpoint, path ∉ (Storage.puts cluster bucket endpoint).map (·.path)) :
    s'.body path = s.body path := by
  obtain ⟨change, hchange, t, q, hq, ht⟩ := h
  apply body_along ht
  intro e he s
  obtain ⟨before, after, rfl⟩ := List.append_of_mem he
  exact (asked_in_turn hchange hq).1.body_after hpath

lemma body_of_upserts {path : String} (h : Relation.ReflTransGen (Upserts cluster bucket) s s')
    (hpath : ∀ endpoint, path ∉ (Storage.puts cluster bucket endpoint).map (·.path)) :
    s'.body path = s.body path := by
  induction h with
  | refl => rfl
  | tail _ hlast ih => rw [hlast.body_of_notMem hpath, ih]

/-! ### The last run counts -/

/-- A run that succeeds has written the secret, with everything it takes. -/
lemma exists_isProvisioned (hnamespace : bucket.metadata.namespaceName = some namespaceName)
    (hchange : IsUpsert change)
    (hrun : (ExceptT.run (Services.azureChange cluster bucket change)).Yields t (.ok ()))
    (hworld : Along keeping s t s') :
    ∃ before endpoint key, IsPrepared cluster bucket before endpoint key ∧
      t = before ++ [⟨.applySecret namespaceName bucket.spec.name
        (ResourceIds.of cluster bucket.spec.name).accountName key, .ok ()⟩] ∧
      IsProvisioned cluster bucket namespaceName endpoint key s' := by
  rw [azureChange_eq hchange] at hrun
  obtain ⟨-, hpublished⟩ := (asksInTurn_ensure cluster hnamespace).ended hrun
  obtain ⟨namespaceName', before, endpoint, key, hnamespace', hprepared, rfl⟩ := hpublished rfl
  rw [hnamespace] at hnamespace'
  cases hnamespace'
  exact ⟨before, endpoint, key, hprepared, rfl, isProvisioned_of_isPrepared rfl hprepared hworld⟩

/-- After any runs for a bucket that end with one that succeeds, everything is stored as that one
put it: the address record with the addresses of the endpoint that it was answered, the secret with
the key that it was listed. But for these it is what a single run leaves of nothing. On a public
cluster, what leads to an account on a private one is as it was before the first run. Every run
makes its calls in turn, each after all before it were granted, and the secret last. A bucket
without a namespace has nothing asked for it. -/
theorem provisioned_by_last_run {s'' : Stock}
    (hnamespace : bucket.metadata.namespaceName = some namespaceName) (hchange : IsUpsert change)
    (hbefore : Relation.ReflTransGen (Upserts cluster bucket) s s')
    (hlast : (ExceptT.run (Services.azureChange cluster bucket change)).Yields t (.ok ()))
    (hworld : Along keeping s' t s'') :
    (∃ before endpoint key, IsPrepared cluster bucket before endpoint key ∧
      t = before ++ [⟨.applySecret namespaceName bucket.spec.name
        (ResourceIds.of cluster bucket.spec.name).accountName key, .ok ()⟩] ∧
      IsProvisioned cluster bucket namespaceName endpoint key s'' ∧
      ∀ change₁ t₁ s₁, IsUpsert change₁ →
        (ExceptT.run (Services.azureChange cluster bucket change₁)).Yields t₁ (.ok ()) →
        Along keeping .empty t₁ s₁ → ∀ put ∈ Storage.puts cluster bucket endpoint,
          put.path ≠ (ResourceIds.of cluster bucket.spec.name).addressRecord →
            s''.body put.path = s₁.body put.path) ∧
    (cluster.isPrivate = false → ∀ path ∈ (ResourceIds.of cluster bucket.spec.name).network,
      s''.body path = s.body path) ∧
    (∀ change₁ before c (r : c.Answer) after q, IsUpsert change₁ →
      (ExceptT.run (Services.azureChange cluster bucket change₁)).After
        (before ++ ⟨c, r⟩ :: after) q →
      IsInTurn cluster bucket before c ∧ (c.IsSecret → after = [] ∧ ∃ o, q = .done o)) ∧
    ∀ (other : Bucket) change₁ client token, IsUpsert change₁ →
      other.metadata.namespaceName = none →
      (Services.azureChange cluster other change₁).runFrom client token = .done
        (.error (.invalidBucket other.metadata.anyName "bucket has no namespace"), token) := by
  obtain ⟨before, endpoint, key, hprepared, ht, hprovisioned⟩ :=
    exists_isProvisioned hnamespace hchange hlast hworld
  refine ⟨⟨before, endpoint, key, hprepared, ht, hprovisioned, ?_⟩, ?_, ?_, ?_⟩
  · intro change₁ t₁ s₁ hchange₁ hrun₁ hworld₁ put hput hpath
    obtain ⟨_, endpoint₁, _, -, -, hprovisioned₁⟩ :=
      exists_isProvisioned hnamespace hchange₁ hrun₁ hworld₁
    rw [hprovisioned.resources put hput,
      hprovisioned₁.resources put (mem_puts_of_ne hput hpath)]
  · intro hpublic path hpath
    exact body_of_upserts (hbefore.tail ⟨change, hchange, t, _, hlast, hworld⟩)
      fun endpoint => notMem_puts_of_mem_network hpublic hpath
  · intro change₁ before c r after q hchange₁ hq
    exact asked_in_turn hchange₁ hq
  · intro other change₁ client token hchange₁ hnone
    rw [azureChange_eq hchange₁, ensure_eq_throw hnone]
    rfl

end Runs

/-! ### A run after one that was cut short -/

/-- A cluster whose accounts are reached through private endpoints only. -/
def secluded : AzureContext := { (default : AzureContext) with isPrivate := true }

/-- A record of the bucket `logs`. -/
def storingLogs : Bucket where
  metadata := { Kubernetes.Metadata.empty with namespaceName := some "monitoring" }
  spec := ⟨"logs", none, .retain, none, []⟩
  status := none

/-- An endpoint with one address. -/
def addressed : Json :=
  .object [("properties", .object [
    ("customDnsConfigs", .array [.object [("ipAddresses", .strings ["10.0.0.4"])]])])]

/-- A listing with one key. -/
def keyring : Json :=
  .object [("keys", .array [.object [("keyName", .string "key1"), ("value", .string "secret")]])]

/-- A run that stops at the container. -/
def haltedTrace : Trace Api :=
  let ids := ResourceIds.of secluded "logs"
  let tags := Storage.tags secluded storingLogs
  [⟨.put ids.storageAccount storageVersion (Account.body secluded.region true tags), .ok .null⟩,
    ⟨.put ids.container storageVersion (Container.body tags), .error .transport⟩]

/-- A run that goes through. -/
def finishedTrace : Trace Api :=
  let ids := ResourceIds.of secluded "logs"
  (Storage.puts secluded storingLogs addressed).map (fun put => ⟨put.call, .ok addressed⟩) ++
    [⟨.post ids.listKeys storageVersion, .ok keyring⟩,
      ⟨.applySecret "monitoring" "logs" ids.accountName "secret", .ok ()⟩]

/-- The endpoint is shown for every resource. -/
lemma eq_addressed {path version : String} {body : Json} {r : Except Failure Json}
    (h : (⟨.put path version body, r⟩ : Exchange Api) ∈ finishedTrace) : r = .ok addressed := by
  rcases List.mem_append.1 h with h | h
  · obtain ⟨put, -, heq⟩ := List.mem_map.1 h
    cases heq
    rfl
  · simp only [List.mem_cons, List.not_mem_nil, or_false] at h
    rcases h with h | h <;> cases h

/-- The second run leaves the record with the address and the secret with the key. -/
theorem finished_after_halt : ∃ s' s'', Upserts secluded storingLogs .empty s' ∧
    Along keeping s' finishedTrace s'' ∧
    addressesOf addressed = ["10.0.0.4"] ∧ TellsKey keyring "key1" "secret" ∧
    IsProvisioned secluded storingLogs "monitoring" addressed "secret" s'' := by
  have hhalted : (ExceptT.run (Services.azureChange secluded storingLogs .createBucket)).After
      haltedTrace
      (.done (.error (.provider "logs" "upsert blob container" (.azure .transport)))) := by
    repeat apply Program.After.answered
    exact .here _
  have hfinished : (ExceptT.run (Services.azureChange secluded storingLogs .updateBucket)).Yields
      finishedTrace (.ok ()) := by
    repeat apply Program.After.answered
    exact .here _
  have hbefore : Upserts secluded storingLogs .empty _ :=
    ⟨.createBucket, .inl rfl, haltedTrace, _, hhalted, along_foldl _ _⟩
  have hworld := along_foldl finishedTrace
    ((haltedTrace.map (·.call)).foldl Stock.after .empty)
  obtain ⟨⟨before, endpoint, key, ⟨built, keys, hbuilt, -, rfl⟩, htrace, hprovisioned, -⟩, -⟩ :=
    provisioned_by_last_run rfl (.inr rfl) (.single hbefore) hfinished hworld
  have hendpoint : endpoint = addressed := by
    have hsub : built ⊆ finishedTrace := by
      rw [htrace]
      exact fun e he => List.mem_append_left _ (List.mem_append_left _ he)
    exact Except.ok.inj (eq_addressed (hsub (hbuilt.answered rfl)))
  have hkey : key = "secret" := by
    have hlast := congrArg List.getLast? htrace
    rw [List.getLast?_concat] at hlast
    cases hlast
    rfl
  subst hendpoint hkey
  exact ⟨_, _, hbefore, hworld, rfl, findKey?_eq_some_iff.1 rfl, hprovisioned⟩

end BucketOperator.Azure
