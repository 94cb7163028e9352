import BucketOperator.Proofs.Aws.Session
import BucketOperator.Proofs.Aws.Tagging
import Mathlib.Logic.Function.Basic

/-!
# Roles on IAM

IAM keeps a trust policy, tags, inline policies and attached policies with each role. Configuring a
role creates it or brings it up to date call by call, and tags are first removed and then set. A run
may be cut short anywhere, and the next one goes by what it finds. Whatever was left behind, a run
that succeeds leaves the role as it is wanted, and nothing else of it or of other roles is touched.
-/

namespace BucketOperator.Aws

open Function (update update_self update_of_ne)
open Program (Brings)

/-- A role as IAM keeps it. -/
@[ext]
structure KeptRole where
  trust : String
  tags : StringMap String
  /-- The inline policies by their names. -/
  inline : StringMap String
  attached : List String

/-- All roles by their names. -/
abbrev Roles := String → Option KeptRole

/-- A role of which nothing is kept but its trust policy and its tags. -/
def KeptRole.bare (trust : String) (tags : StringMap String) : KeptRole := ⟨trust, tags, .empty, []⟩

/-- The inline policies of a role; one that does not exist has none. -/
def inlineOf (role : Option KeptRole) : StringMap String := (role.map (·.inline)).getD .empty

/-- The attached policies of a role. -/
def attachedOf (role : Option KeptRole) : List String := (role.map (·.attached)).getD []

/-- A call that makes something else of a role where it can. It may have its effect and fail all the
same. -/
def Alters (name : String) (alter : Option KeptRole → Option KeptRole) (s : Roles)
    (succeeds : Bool) (s' : Roles) : Prop :=
  (∃ role, alter (s name) = some role ∧ s' = update s name (some role)) ∨
    succeeds = false ∧ s' = s

/-- Whether an answer is true of the role that was asked for. -/
def IsTrueOf (name : String) (role : Option KeptRole) : Except Failure (Option Role) → Prop
  | .ok (some found) => found.name = name ∧ ∃ kept, role = some kept ∧ Lists found.tags kept.tags
  | .ok none => role = none
  | .error failure => failure.isNoSuchEntity = true → role = none

/-- What creating a role makes of it. -/
def KeptRole.created (trust : String) (tags : List Tag) : Option KeptRole → Option KeptRole
  | none => some (.bare trust (.ofList (entriesOf tags)))
  | some _ => none

@[simp] lemma KeptRole.created_none (trust : String) (tags : List Tag) :
    KeptRole.created trust tags none = some (.bare trust (.ofList (entriesOf tags))) := rfl

@[simp] lemma KeptRole.created_some (trust : String) (tags : List Tag) (role : KeptRole) :
    KeptRole.created trust tags (some role) = none := rfl

/-- IAM as a world. Calls that configuring a role does not make may do anything. -/
def keepingRoles : Behaviour World Roles
  | s, .iam _ (.getRole name), r, s' => s' = s ∧ IsTrueOf name (s name) r
  | s, .iam _ (.createRole name trust _ tags), (r : Except Failure Unit), s' =>
    Alters name (KeptRole.created trust tags) s r.isOk s'
  | s, .iam _ (.updateTrustPolicy name trust), (r : Except Failure Unit), s' =>
    Alters name (Option.map fun role => { role with trust }) s r.isOk s'
  | s, .iam _ (.tagRole name tags), (r : Except Failure Unit), s' =>
    Alters name (Option.map fun role =>
      { role with tags := role.tags.insertAll (entriesOf tags) }) s r.isOk s'
  | s, .iam _ (.untagRole name keys), (r : Except Failure Unit), s' =>
    Alters name (Option.map fun role =>
      { role with tags := role.tags.filter fun key _ => !keys.contains key }) s r.isOk s'
  | s, .iam _ (.putRolePolicy name policyName policy), (r : Except Failure Unit), s' =>
    Alters name (Option.map fun role =>
      { role with inline := role.inline.insert policyName policy }) s r.isOk s'
  | _, .iam _ _, _, _ => True
  | s, _, _, s' => s' = s

/-- Only one role was touched, and of its policies only the inline one of its own name. -/
structure Spares (name : String) (s s' : Roles) : Prop where
  others : ∀ other, other ≠ name → s' other = s other
  attached : attachedOf (s' name) = attachedOf (s name)
  inline : ∀ policy, policy ≠ name →
    (inlineOf (s' name)).get? policy = (inlineOf (s name)).get? policy

/-- What a record wants of a role. -/
structure IsFitting (cluster : AwsContext) (bucket : Bucket) (role : BucketOperator.AccessRole)
    (kept : KeptRole) : Prop where
  trust : kept.trust = Policy.forTrust cluster.partition cluster.accountId cluster.irsaDomain
    role.serviceAccountNamespace role.serviceAccountName
  tags : kept.tags = mergeTags cluster.tags bucket.spec
  inline : kept.inline.get? role.roleName =
    some (Policy.forRole cluster.partition bucket.spec.name role.extraBucketNames)

/-- A role is there and as a record wants it. -/
def Fits (cluster : AwsContext) (bucket : Bucket) (role : BucketOperator.AccessRole) (s : Roles) :
    Prop :=
  ∃ kept, s role.roleName = some kept ∧ IsFitting cluster bucket role kept

/-- A run of configuring a role of some name, for any record and in any session. -/
def ConfiguresRole (name : String) (s s' : Roles) : Prop :=
  ∃ cluster bucket session role, bucket.spec.requestedRole = some role ∧ role.roleName = name ∧
    Brings keepingRoles ((AccessRole.configure cluster bucket).run session) s s'

/-- Whether a call creates a role or changes its tags. -/
def IamCall.IsRenewal : IamCall → Prop
  | .createRole .. => True
  | .untagRole .. => True
  | .tagRole .. => True
  | _ => False

/-! ### What is spared -/

lemma Spares.refl (name : String) (s : Roles) : Spares name s s :=
  ⟨fun _ _ => rfl, rfl, fun _ _ => rfl⟩

lemma Spares.trans {name : String} {s s' s'' : Roles} (h : Spares name s s')
    (h' : Spares name s' s'') : Spares name s s'' where
  others other hother := (h'.others other hother).trans (h.others other hother)
  attached := h'.attached.trans h.attached
  inline policy hpolicy := (h'.inline policy hpolicy).trans (h.inline policy hpolicy)

/-- What is made of a role keeps its policies, but for the inline one of its own name. -/
structure KeepsPolicies (name : String) (alter : Option KeptRole → Option KeptRole) : Prop where
  attached : ∀ old new, alter old = some new → new.attached = attachedOf old
  inline : ∀ old new, alter old = some new → ∀ policy, policy ≠ name →
    new.inline.get? policy = (inlineOf old).get? policy

lemma keepsPolicies_created {name trust : String} {tags : List Tag} :
    KeepsPolicies name (KeptRole.created trust tags) where
  attached
    | none, _, rfl => rfl
  inline
    | none, _, rfl, _, _ => rfl

lemma keepsPolicies_map {name : String} {f : KeptRole → KeptRole}
    (hattached : ∀ role, (f role).attached = role.attached)
    (hinline : ∀ role policy, policy ≠ name →
      (f role).inline.get? policy = role.inline.get? policy) :
    KeepsPolicies name (Option.map f) where
  attached
    | some role, _, rfl => hattached role
  inline
    | some role, _, rfl, policy, hpolicy => hinline role policy hpolicy

lemma KeepsPolicies.spares {name : String} {alter : Option KeptRole → Option KeptRole} {s : Roles}
    {role : KeptRole} (h : KeepsPolicies name alter) (hrole : alter (s name) = some role) :
    Spares name s (update s name (some role)) where
  others other hother := update_of_ne hother _ _
  attached := by
    rw [update_self]
    exact h.attached _ _ hrole
  inline policy hpolicy := by
    rw [update_self]
    exact h.inline _ _ hrole policy hpolicy

/-! ### One call after the other -/

/-- The last step of configuring a role. -/
def AccessRole.grant (cluster : AwsContext) (bucket : Bucket) (role : BucketOperator.AccessRole) :
    Operation Unit :=
  step bucket "put role policy" <|
    callIam (.putRolePolicy role.roleName role.roleName
      (Policy.forRole cluster.partition bucket.spec.name role.extraBucketNames))

/-- What follows the trust policy of a role that exists. -/
def AccessRole.refresh (cluster : AwsContext) (bucket : Bucket) (role : BucketOperator.AccessRole)
    (existing : Role) : Operation Unit := do
  if tagsDiffer existing.tags (mergeTags cluster.tags bucket.spec) then
    retag bucket existing (mergeTags cluster.tags bucket.spec)
    grant cluster bucket role
  else
    grant cluster bucket role

/-- How configuring a role goes on once it is known whether there is one. -/
def AccessRole.settle (cluster : AwsContext) (bucket : Bucket) (role : BucketOperator.AccessRole) :
    Option Role → Operation Unit
  | none => do
    step bucket "create role"
      (callIam (.createRole role.roleName (trustPolicy cluster role) (description role.roleName)
        (Storage.tagList (mergeTags cluster.tags bucket.spec))))
    grant cluster bucket role
  | some existing => do
    step bucket "update assume role policy"
      (callIam (.updateTrustPolicy role.roleName (trustPolicy cluster role)))
    refresh cluster bucket role existing

/-- The part of replacing tags that sets the new ones. -/
def AccessRole.setTags (bucket : Bucket) (name : String) (wanted : StringMap String) :
    Operation Unit := do
  match Storage.tagList wanted with
  | [] => return ()
  | tags => step bucket "tag role" (callIam (.tagRole name tags))

section Runs

variable {cluster : AwsContext} {bucket : Bucket} {session : Session}
  {role : BucketOperator.AccessRole} {name : String} {s s' s₀ : Roles}

lemma configure_eq_settle (h : bucket.spec.requestedRole = some role) :
    AccessRole.configure cluster bucket =
      AccessRole.find? bucket role.roleName >>= AccessRole.settle cluster bucket role := by
  unfold AccessRole.configure AccessRole.requested
  rw [h]
  rfl

/-- A call touches nothing else, and a run goes on only once it has had its effect. -/
lemma achieves_alter {call : IamCall} {alter : Option KeptRole → Option KeptRole}
    {p : Except Failure call.Output → Program World (Except BucketOperator.Failure Unit)}
    {Q : Roles → Prop} (hs : Spares name s₀ s)
    (hcall : ∀ r s', keepingRoles s (.iam session call) r s' →
      Alters name alter s (Except.isOk (α := call.Output) r) s')
    (hkeeps : KeepsPolicies name alter)
    (hok : ∀ a new, alter (s name) = some new → Spares name s₀ (update s name (some new)) →
      (p (.ok a)).Achieves keepingRoles (Spares name s₀) Q (update s name (some new)))
    (herror : ∀ failure, ∃ f, p (.error failure) = .done (.error f)) :
    (Program.ask (I := World) (.iam session call) p).Achieves keepingRoles (Spares name s₀) Q
      s := by
  refine ⟨hs, ?_⟩
  intro (r : Except Failure call.Output) s' hr
  cases r with
  | ok a =>
    rcases hcall _ _ hr with ⟨new, hnew, rfl⟩ | ⟨hfailed, -⟩
    · exact hok a new hnew (hs.trans (hkeeps.spares hnew))
    · cases hfailed
  | error failure =>
    obtain ⟨f, hf⟩ := herror failure
    rw [hf]
    rcases hcall _ _ hr with ⟨new, hnew, rfl⟩ | ⟨-, rfl⟩
    · exact Program.achieves_error (hs.trans (hkeeps.spares hnew))
    · exact Program.achieves_error hs

/-- The same for a role that is there and stays. -/
lemma achieves_map {call : IamCall} {f : KeptRole → KeptRole} {kept : KeptRole}
    {p : Except Failure call.Output → Program World (Except BucketOperator.Failure Unit)}
    {Q : Roles → Prop} (hs : Spares name s₀ s) (hkept : s name = some kept)
    (hcall : ∀ r s', keepingRoles s (.iam session call) r s' →
      Alters name (Option.map f) s (Except.isOk (α := call.Output) r) s')
    (hattached : ∀ role, (f role).attached = role.attached)
    (hinline : ∀ role policy, policy ≠ name →
      (f role).inline.get? policy = role.inline.get? policy)
    (hok : ∀ a, Spares name s₀ (update s name (some (f kept))) →
      (p (.ok a)).Achieves keepingRoles (Spares name s₀) Q (update s name (some (f kept))))
    (herror : ∀ failure, ∃ f, p (.error failure) = .done (.error f)) :
    (Program.ask (I := World) (.iam session call) p).Achieves keepingRoles (Spares name s₀) Q
      s := by
  refine achieves_alter hs hcall (keepsPolicies_map hattached hinline) ?_ herror
  intro a new hnew hspares
  rw [hkept, Option.map_some, Option.some.injEq] at hnew
  subst hnew
  exact hok a hspares

/-- The inline policy makes a role with the right trust policy and tags fit. -/
lemma achieves_grant {kept : KeptRole} (hs : Spares role.roleName s₀ s)
    (hkept : s role.roleName = some kept)
    (htrust : kept.trust = Policy.forTrust cluster.partition cluster.accountId cluster.irsaDomain
      role.serviceAccountNamespace role.serviceAccountName)
    (htags : kept.tags = mergeTags cluster.tags bucket.spec) :
    ((AccessRole.grant cluster bucket role).run session).Achieves keepingRoles
      (Spares role.roleName s₀) (Fits cluster bucket role) s := by
  refine achieves_map hs hkept (fun _ _ h => h) (fun _ => rfl) ?_ ?_ fun failure => ⟨_, rfl⟩
  · intro old policy hpolicy
    simp [hpolicy]
  · intro u hspares
    refine Program.achieves_ok hspares ⟨_, update_self _ _ _, ?_⟩
    exact ⟨htrust, htags, by simp⟩

/-- Setting tags where there are none. -/
lemma achieves_setTags {kept : KeptRole} {wanted : StringMap String} (hs : Spares name s₀ s)
    (hkept : s name = some kept) (htags : kept.tags = .empty) :
    ((AccessRole.setTags bucket name wanted).run session).Achieves keepingRoles (Spares name s₀)
      (fun s' => s' name = some { kept with tags := wanted }) s := by
  have hlists := lists_tagList wanted
  unfold AccessRole.setTags
  cases h : Storage.tagList wanted with
  | nil =>
    rw [h] at hlists
    refine Program.achieves_ok hs ?_
    rw [hkept, hlists.eq_empty, ← htags]
  | cons tag rest =>
    refine achieves_map hs hkept (fun _ _ h => h) (fun _ => rfl) (fun _ _ _ => rfl) ?_
      fun failure => ⟨_, rfl⟩
    intro u hspares
    refine Program.achieves_ok hspares ?_
    have hset : kept.tags.insertAll (entriesOf (tag :: rest)) = wanted := by
      rw [htags, ← h]
      exact hlists.ofList_eq
    simp only [update_self, hset]

lemma retag_eq {found : Role} {wanted : StringMap String} :
    AccessRole.retag bucket found wanted =
      match found.tags.map (·.key) with
      | [] => AccessRole.setTags bucket found.name wanted
      | keys => AccessRole.step bucket "untag role" (callIam (.untagRole found.name keys)) >>=
          fun _ => AccessRole.setTags bucket found.name wanted := rfl

/-- Replacing the tags of a role leaves it with none but the wanted ones. -/
lemma achieves_retag {kept : KeptRole} {found : Role} {wanted : StringMap String}
    (hname : found.name = name) (hs : Spares name s₀ s) (hkept : s name = some kept)
    (hlists : Lists found.tags kept.tags) :
    ((AccessRole.retag bucket found wanted).run session).Achieves keepingRoles (Spares name s₀)
      (fun s' => s' name = some { kept with tags := wanted }) s := by
  subst hname
  rw [retag_eq]
  cases h : found.tags.map (·.key) with
  | nil =>
    rw [List.map_eq_nil_iff] at h
    rw [h] at hlists
    exact achieves_setTags hs hkept hlists.eq_empty
  | cons key rest =>
    simp only
    rw [run_bind]
    refine achieves_map hs hkept (fun _ _ h => h) (fun _ => rfl) (fun _ _ _ => rfl) ?_
      fun failure => ⟨_, rfl⟩
    intro u hspares
    refine (achieves_setTags hspares (update_self _ _ _) ?_).mono (fun _ _ h => h) fun _ _ h => h
    rw [← h]
    exact hlists.filter_eq_empty

/-- A new role is created as it is wanted. -/
lemma achieves_settle_none (hs : Spares role.roleName s₀ s) :
    ((AccessRole.settle cluster bucket role none).run session).Achieves keepingRoles
      (Spares role.roleName s₀) (Fits cluster bucket role) s := by
  rw [AccessRole.settle, run_bind]
  refine achieves_alter hs (fun _ _ h => h) keepsPolicies_created ?_ fun failure => ⟨_, rfl⟩
  intro u new hnew hspares
  cases h : s role.roleName with
  | some old => simp [h] at hnew
  | none =>
    rw [h, KeptRole.created_none, Option.some.injEq] at hnew
    subst hnew
    exact achieves_grant hspares (update_self _ _ _) rfl (lists_tagList _).ofList_eq

/-- A role with the right trust policy gets the wanted tags and the inline policy. -/
lemma achieves_refresh {found : Role} {kept : KeptRole} (hs : Spares role.roleName s₀ s)
    (hname : found.name = role.roleName) (hkept : s role.roleName = some kept)
    (htrust : kept.trust = Policy.forTrust cluster.partition cluster.accountId cluster.irsaDomain
      role.serviceAccountNamespace role.serviceAccountName)
    (hlists : Lists found.tags kept.tags) :
    ((AccessRole.refresh cluster bucket role found).run session).Achieves keepingRoles
      (Spares role.roleName s₀) (Fits cluster bucket role) s := by
  unfold AccessRole.refresh
  by_cases hdiffer : AccessRole.tagsDiffer found.tags (mergeTags cluster.tags bucket.spec) = true
  · rw [if_pos hdiffer, run_bind]
    refine (achieves_retag hname hs hkept hlists).bind ?_ fun failure => rfl
    intro s' hs' hretagged
    exact achieves_grant hs' hretagged htrust rfl
  · rw [if_neg hdiffer]
    refine achieves_grant hs hkept htrust ?_
    simpa [hlists.tagsDiffer_iff] using hdiffer

/-- An existing role is brought up to date. -/
lemma achieves_settle_some {found : Role} {kept : KeptRole} (hs : Spares role.roleName s₀ s)
    (hname : found.name = role.roleName) (hkept : s role.roleName = some kept)
    (hlists : Lists found.tags kept.tags) :
    ((AccessRole.settle cluster bucket role (some found)).run session).Achieves keepingRoles
      (Spares role.roleName s₀) (Fits cluster bucket role) s := by
  rw [AccessRole.settle, run_bind]
  refine achieves_map hs hkept (fun _ _ h => h) (fun _ => rfl) (fun _ _ _ => rfl) ?_
    fun failure => ⟨_, rfl⟩
  intro u hspares
  exact achieves_refresh hspares hname (update_self _ _ _) rfl hlists

/-- Configuring a role leaves it as it is wanted, and spares everything else wherever it stops. -/
theorem achieves_configure_role (hrole : bucket.spec.requestedRole = some role)
    (hs : Spares role.roleName s₀ s) :
    ((AccessRole.configure cluster bucket).run session).Achieves keepingRoles
      (Spares role.roleName s₀) (Fits cluster bucket role) s := by
  rw [configure_eq_settle hrole, run_bind, run_find?]
  refine ⟨hs, ?_⟩
  rintro (r : Except Failure (Option Role)) _ ⟨rfl, htrue⟩
  rcases r with failure | _ | found
  · by_cases hnone : failure.isNoSuchEntity = true
    · simp only [reportOr, hnone]
      exact achieves_settle_none hs
    · simp only [reportOr, hnone]
      exact Program.achieves_error hs
  · exact achieves_settle_none hs
  · obtain ⟨hname, kept, hkept, hlists⟩ := htrue
    exact achieves_settle_some hs hname hkept hlists

/-! ### Runs after one another -/

lemma ConfiguresRole.spares (h : ConfiguresRole name s s') : Spares name s s' := by
  obtain ⟨cluster, bucket, session, role, hrole, rfl, hruns⟩ := h
  exact (achieves_configure_role hrole (.refl _ s)).brings hruns

lemma spares_of_runs (h : Relation.ReflTransGen (ConfiguresRole name) s s') : Spares name s s' := by
  induction h with
  | refl => exact .refl name s
  | tail _ hlast ih => exact ih.trans hlast.spares

/-- A call that makes of a role what it already is changes nothing. -/
lemma Alters.eq {f : KeptRole → KeptRole} {kept : KeptRole} {succeeds : Bool}
    (h : Alters name (Option.map f) s succeeds s') (hkept : s name = some kept)
    (hf : f kept = kept) : s' = s := by
  rcases h with ⟨new, hnew, rfl⟩ | ⟨-, rfl⟩
  · rw [hkept, Option.map_some, hf] at hnew
    rw [← hnew, ← hkept, Function.update_eq_self]
  · rfl

lemma IsFitting.insert_eq {kept : KeptRole} (h : IsFitting cluster bucket role kept) :
    kept.inline.insert role.roleName
      (Policy.forRole cluster.partition bucket.spec.name role.extraBucketNames) = kept.inline := by
  apply StringMap.ext_get?
  intro policy
  by_cases hpolicy : policy = role.roleName
  · simp [hpolicy, h.inline]
  · simp [hpolicy]

/-- Nothing is changed any more, and no role is created or retagged. -/
def LeavesAlone (s s' : Roles) (c : World.Call) : Prop :=
  s' = s ∧ ∀ session call, c = .iam session call → ¬ call.IsRenewal

lemma LeavesAlone.of_iam {call : IamCall} (h : ¬ call.IsRenewal) :
    LeavesAlone s s (.iam session call) := by
  refine ⟨rfl, ?_⟩
  rintro _ _ ⟨⟩
  exact h

/-- A role that fits is left as it is. -/
theorem ensures_fitting (hrole : bucket.spec.requestedRole = some role)
    (hfits : Fits cluster bucket role s) :
    ((AccessRole.configure cluster bucket).run session).Ensures keepingRoles
      (LeavesAlone s) (fun s' _ => s' = s) s := by
  obtain ⟨kept, hkept, hfitting⟩ := hfits
  rw [configure_eq_settle hrole, run_bind, run_find?]
  refine ⟨.of_iam id, ?_⟩
  rintro (r : Except Failure (Option Role)) _ ⟨rfl, htrue⟩
  rw [hkept] at htrue
  rcases r with failure | _ | found
  · have hfound : ¬ failure.isNoSuchEntity = true := fun h => nomatch htrue h
    simp only [reportOr, hfound]
    rfl
  · cases htrue
  obtain ⟨-, _, ⟨⟩, hlists⟩ := htrue
  have hsame : ¬ AccessRole.tagsDiffer found.tags (mergeTags cluster.tags bucket.spec) = true := by
    rw [hlists.tagsDiffer_iff, not_not]
    exact hfitting.tags
  change Program.Ensures _ _ _ (Operation.run session (_ >>= _)) _
  rw [run_bind]
  refine ⟨.of_iam id, ?_⟩
  intro (r : Except Failure Unit) s' hr
  obtain rfl := Alters.eq hr hkept (by rw [AccessRole.trustPolicy, ← hfitting.trust])
  cases r with
  | error failure => rfl
  | ok u =>
    change Program.Ensures _ _ _ (Operation.run session (AccessRole.refresh _ _ _ _)) _
    rw [AccessRole.refresh, if_neg hsame]
    refine ⟨.of_iam id, ?_⟩
    intro (r : Except Failure Unit) s' hr
    exact Alters.eq hr hkept (by simp [hfitting.insert_eq])

/-- After any runs for a role that end with one that succeeds, the role is there and as that one
wanted it. Its attached policies, its other inline policies and all other roles are as they were
before the first of them. The same run again changes nothing, and it neither creates a role nor
changes tags. -/
theorem role_configured_by_last_run {s'' : Roles} {t : Trace World}
    (hrole : bucket.spec.requestedRole = some role)
    (hbefore : Relation.ReflTransGen (ConfiguresRole role.roleName) s s')
    (hlast : ((AccessRole.configure cluster bucket).run session).Yields t (.ok ()))
    (hworld : Along keepingRoles s' t s'') :
    Fits cluster bucket role s'' ∧ Spares role.roleName s s'' ∧
    ∀ session' t' q s₃, ((AccessRole.configure cluster bucket).run session').After t' q →
      Along keepingRoles s'' t' s₃ →
        s₃ = s'' ∧ ∀ session'' call next, q = .ask (.iam session'' call) next →
          ¬ call.IsRenewal := by
  obtain ⟨hspares, hfits⟩ :=
    (achieves_configure_role hrole (spares_of_runs hbefore)).along hlast hworld
  refine ⟨hfits, hspares, ?_⟩
  intro session' t' q s₃ hq ht'
  have hagain := (ensures_fitting hrole hfits).along hq ht'
  refine ⟨(hagain.mono (fun _ _ h => h.1) fun _ _ h => h).holds, ?_⟩
  rintro session'' call next rfl
  exact hagain.1.2 _ _ rfl

end Runs

/-! ### A role without its tags -/

/-- A record that asks for a role. -/
def reading : Bucket where
  metadata := .empty
  spec :=
    { name := "logs"
      expirationDays := none
      reclaimPolicy := .retain
      accessRole := some ⟨"logs-reader", ["traces"], "loki", "monitoring"⟩
      tags := [⟨"team", "atlas"⟩] }
  status := none

/-- The role it asks for. -/
def reader : BucketOperator.AccessRole := ⟨"logs-reader", ["traces"], "loki", "monitoring"⟩

/-- Roles from another time, with policies that are none of the operator's business. -/
def inherited : Roles := fun _ => some {
  trust := "old"
  tags := .ofList [("team", "old")]
  inline := .ofList [("audit", "old")]
  attached := ["arn:aws:iam::aws:policy/ReadOnlyAccess"] }

/-- A run that stops between removing the tags and setting them. -/
def untaggingTrace : Trace World :=
  [⟨.iam default (.getRole "logs-reader"), .ok (some ⟨"logs-reader", [⟨"team", "old"⟩]⟩)⟩,
    ⟨.iam default (.updateTrustPolicy "logs-reader"
      (Policy.forTrust "aws" "" "irsa.." "monitoring" "loki")), .ok ()⟩,
    ⟨.iam default (.untagRole "logs-reader" ["team"]), .ok ()⟩,
    ⟨.iam default (.tagRole "logs-reader" [⟨"team", "atlas"⟩]), .error .dispatch⟩]

/-- A run that finds no tags. -/
def taggingTrace : Trace World :=
  [⟨.iam default (.getRole "logs-reader"), .ok (some ⟨"logs-reader", []⟩)⟩,
    ⟨.iam default (.updateTrustPolicy "logs-reader"
      (Policy.forTrust "aws" "" "irsa.." "monitoring" "loki")), .ok ()⟩,
    ⟨.iam default (.tagRole "logs-reader" [⟨"team", "atlas"⟩]), .ok ()⟩,
    ⟨.iam default (.putRolePolicy "logs-reader" "logs-reader"
      (Policy.forRole "aws" "logs" ["traces"])), .ok ()⟩]

/-- A role whose tags were removed and not set again gets them from the next run. -/
theorem untagged_role_configured :
    ∃ before after, ConfiguresRole "logs-reader" inherited before ∧
      (before "logs-reader").map (·.tags) = some .empty ∧
      Along keepingRoles before taggingTrace after ∧ Fits default reading reader after := by
  have huntagging : ((AccessRole.configure default reading).run default).After untaggingTrace
      (.done (.error (.provider "logs" "tag role" (.aws .dispatch)))) := by
    repeat apply Program.After.answered
    exact .here _
  have htagging : ((AccessRole.configure default reading).run default).Yields taggingTrace
      (.ok ()) := by
    repeat apply Program.After.answered
    exact .here _
  have hbefore : Along keepingRoles inherited untaggingTrace _ :=
    .cons ⟨rfl, rfl, _, rfl, lists_tagList (.ofList [("team", "old")])⟩ <|
      .cons (.inl ⟨_, rfl, rfl⟩) <| .cons (.inl ⟨_, rfl, rfl⟩) <| .cons (.inr ⟨rfl, rfl⟩) (.nil _)
  obtain ⟨before, hruns, huntagged⟩ : ∃ before, ConfiguresRole "logs-reader" inherited before ∧
      (before "logs-reader").map (·.tags) = some .empty :=
    ⟨_, ⟨default, reading, default, reader, rfl, rfl, _, _, huntagging, hbefore⟩, rfl⟩
  obtain ⟨kept, hkept, htags⟩ := Option.map_eq_some_iff.1 huntagged
  have hlists : Lists [] kept.tags := by
    rw [htags]
    exact lists_tagList .empty
  have hworld : Along keepingRoles before taggingTrace _ :=
    .cons ⟨rfl, rfl, kept, hkept, hlists⟩ <| .cons (.inl ⟨_, congrArg (Option.map _) hkept, rfl⟩) <|
      .cons (.inl ⟨_, rfl, rfl⟩) <| .cons (.inl ⟨_, rfl, rfl⟩) (.nil _)
  obtain ⟨hfits, -⟩ := role_configured_by_last_run rfl (.single hruns) htagging hworld
  exact ⟨before, _, hruns, huntagged, hworld, hfits⟩

end BucketOperator.Aws
