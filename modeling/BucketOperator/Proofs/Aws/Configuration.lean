import BucketOperator.Proofs.Aws.Session
import BucketOperator.Proofs.Aws.Tagging
import Mathlib.Logic.Function.Basic

/-!
# The configuration of buckets on S3

S3 keeps a lifecycle, a policy and tags with each bucket. Every run of configuring a bucket replaces
all three in this order, or is cut short and leaves some as they were. So what is configured in the
end is what the last run wanted, whatever was there before.
-/

namespace BucketOperator.Aws

open Function (update update_self update_of_ne update_idem)
open Program (Brings)

/-- What is configured on a bucket. -/
structure Configuration where
  lifecycle : Option (List LifecycleRule)
  policy : Option String
  tags : Option (List Tag)

/-- A bucket that was never configured. -/
def Configuration.empty : Configuration := ⟨none, none, none⟩

/-- The configurations of all buckets by their names. -/
abbrev Configurations := String → Configuration

/-- What an operation makes of the configuration of its bucket. -/
def S3Operation.apply : S3Operation → Configuration → Configuration
  | .putLifecycle rules, c => { c with lifecycle := some rules }
  | .deleteLifecycle, c => { c with lifecycle := none }
  | .putPolicy policy, c => { c with policy := some policy }
  | .putTagging tags, c => { c with tags := some tags }
  | .createBucket _, _ => .empty
  | .deleteBucket, _ => .empty
  | _, c => c

/-- S3 as a world. A call that fails may have had its effect all the same. -/
def configuring : Behaviour World Configurations
  | s, .s3 _ call, (r : Except Failure call.operation.Output), s' =>
    s' = update s call.bucket (call.operation.apply (s call.bucket)) ∨ r.isOk = false ∧ s' = s
  | s, _, _, s' => s' = s

/-- What a record wants to be configured. -/
structure IsConfigured (cluster : AwsContext) (bucket : Bucket) (c : Configuration) : Prop where
  expires : ∀ days, bucket.spec.expirationDays = some days → ∃ rule, c.lifecycle = some [rule] ∧
    rule.enabled = true ∧ rule.keyStart = "" ∧ rule.days = days
  stays : bucket.spec.expirationDays = none → c.lifecycle = none
  policy : c.policy = some (Policy.forBucket cluster.partition bucket.spec.name)
  tags : ∃ tags, c.tags = some tags ∧ Lists tags (mergeTags cluster.tags bucket.spec)

/-- A run of configuring a bucket of some name, by any record and in any session. -/
def Configures (name : String) (s s' : Configurations) : Prop :=
  ∃ cluster bucket session, bucket.spec.name = name ∧
    Brings configuring ((Storage.configure cluster bucket).run session) s s'

/-- An operation on a bucket was granted. -/
def Granted (name : String) (operation : S3Operation) (t : Trace World) : Prop :=
  ∃ session, ∃ r : Except Failure operation.Output,
    (⟨.s3 session ⟨name, operation⟩, r⟩ : Exchange World) ∈ t ∧ r.isOk = true

/-- Whether an operation sets or removes the lifecycle. -/
def S3Operation.IsLifecycle : S3Operation → Prop
  | .putLifecycle _ => True
  | .deleteLifecycle => True
  | _ => False

/-- The policy of a bucket is written once its lifecycle was, and its tags once its policy was. -/
structure IsInTurn (t : Trace World) (call : S3Call) : Prop where
  policy : ∀ policy, call.operation = .putPolicy policy →
    ∃ operation : S3Operation, operation.IsLifecycle ∧ Granted call.bucket operation t
  tags : ∀ tags, call.operation = .putTagging tags →
    ∃ policy, Granted call.bucket (.putPolicy policy) t

/-- The configuration a record asks for. -/
def Configuration.wanted (cluster : AwsContext) (bucket : Bucket) : Configuration where
  lifecycle := bucket.spec.expirationDays.map fun days => [Storage.expirationRule days]
  policy := some (Policy.forBucket cluster.partition bucket.spec.name)
  tags := some (Storage.tagList (mergeTags cluster.tags bucket.spec))

lemma isConfigured_wanted (cluster : AwsContext) (bucket : Bucket) :
    IsConfigured cluster bucket (.wanted cluster bucket) where
  expires days hdays :=
    ⟨Storage.expirationRule days, by simp [Configuration.wanted, hdays], rfl, rfl, rfl⟩
  stays hnone := by simp [Configuration.wanted, hnone]
  policy := rfl
  tags := ⟨_, rfl, lists_tagList _⟩

/-- What follows the lifecycle when a bucket is configured. -/
def Storage.protect (cluster : AwsContext) (bucket : Bucket) : Operation Unit := do
  let name := bucket.spec.name
  named name "put bucket policy"
    (callS3 name (.putPolicy (Policy.forBucket cluster.partition name)))
  named name "put bucket tagging"
    (callS3 name (.putTagging (tagList (mergeTags cluster.tags bucket.spec))))

/-! ### Where a run may stop -/

/-- Each part of a configuration is as it was or as it is to be. -/
structure Mixes (old new c : Configuration) : Prop where
  lifecycle : c.lifecycle = old.lifecycle ∨ c.lifecycle = new.lifecycle
  policy : c.policy = old.policy ∨ c.policy = new.policy
  tags : c.tags = old.tags ∨ c.tags = new.tags

/-- One bucket is half configured, and all others are as they were. -/
def Halfway (name : String) (new : Configuration) (s s' : Configurations) : Prop :=
  ∃ c, s' = update s name c ∧ Mixes (s name) new c

section Runs

variable {cluster : AwsContext} {bucket : Bucket} {session : Session} {name operation : String}
  {old new c : Configuration} {s s' : Configurations}

lemma Mixes.eq (h : Mixes old old c) : c = old := by
  obtain ⟨hlifecycle, hpolicy, htags⟩ := h
  rw [or_self] at hlifecycle hpolicy htags
  cases c
  cases old
  simp_all

lemma Halfway.eq (h : Halfway name (s name) s s') : s' = s := by
  obtain ⟨c, rfl, hc⟩ := h
  rw [hc.eq, Function.update_eq_self]

lemma Halfway.other (h : Halfway name new s s') {other : String} (hother : other ≠ name) :
    s' other = s other := by
  obtain ⟨c, rfl, -⟩ := h
  exact update_of_ne hother _ _

/-- What an operation does to a bucket that is being configured. -/
lemma configuring_update {s3 : S3Operation} {r : Except Failure s3.Output}
    (h : configuring (update s name c) (.s3 session ⟨name, s3⟩) r s') :
    s' = update s name (s3.apply c) ∨ r.isOk = false ∧ s' = update s name c := by
  simpa [configuring] using h

/-- An operation leaves a bucket halfway if it was and will be, and a run goes on only once it was
granted. -/
lemma achieves_put {s3 : S3Operation}
    {p : Except Failure s3.Output → Program World (Except BucketOperator.Failure Unit)}
    {Q : Configurations → Prop} (hc : Mixes (s name) new c)
    (happly : Mixes (s name) new (s3.apply c))
    (hok : ∀ a, (p (.ok a)).Achieves configuring (Halfway name new s) Q
      (update s name (s3.apply c)))
    (herror : ∀ failure, ∃ f, p (.error failure) = .done (.error f)) :
    (Program.ask (I := World) (.s3 session ⟨name, s3⟩) p).Achieves configuring
      (Halfway name new s) Q (update s name c) := by
  refine ⟨⟨c, rfl, hc⟩, ?_⟩
  intro r s' hr
  cases r with
  | ok a =>
    rcases configuring_update hr with rfl | ⟨hfailed, -⟩
    · exact hok a
    · cases hfailed
  | error failure =>
    obtain ⟨f, hf⟩ := herror failure
    rw [hf]
    rcases configuring_update hr with rfl | ⟨-, rfl⟩
    · exact Program.achieves_error ⟨_, rfl, happly⟩
    · exact Program.achieves_error ⟨_, rfl, hc⟩

lemma configure_eq :
    Storage.configure cluster bucket =
      Storage.setLifecycle bucket >>= fun _ => Storage.protect cluster bucket := rfl

/-- Once the lifecycle is set, the policy and the tags are. -/
lemma achieves_protect (hc : Mixes (s bucket.spec.name) (.wanted cluster bucket) c)
    (hlifecycle : c.lifecycle = (Configuration.wanted cluster bucket).lifecycle) :
    ((Storage.protect cluster bucket).run session).Achieves configuring
      (Halfway bucket.spec.name (.wanted cluster bucket) s)
      (· = update s bucket.spec.name (.wanted cluster bucket)) (update s bucket.spec.name c) := by
  rw [Storage.protect, run_bind]
  refine achieves_put hc ⟨hc.lifecycle, .inr rfl, hc.tags⟩ ?_ fun failure => ⟨_, rfl⟩
  intro u
  refine achieves_put ⟨hc.lifecycle, .inr rfl, hc.tags⟩ ⟨hc.lifecycle, .inr rfl, .inr rfl⟩ ?_
    fun failure => ⟨_, rfl⟩
  intro u
  refine Program.achieves_ok ⟨_, rfl, hc.lifecycle, .inr rfl, .inr rfl⟩ ?_
  simp [S3Operation.apply, hlifecycle, Configuration.wanted]

/-- Configuring a bucket leaves it as it is wanted, and halfway wherever it stops. -/
theorem achieves_configure :
    ((Storage.configure cluster bucket).run session).Achieves configuring
      (Halfway bucket.spec.name (.wanted cluster bucket) s)
      (· = update s bucket.spec.name (.wanted cluster bucket)) s := by
  have hold : Mixes (s bucket.spec.name) (.wanted cluster bucket) (s bucket.spec.name) :=
    ⟨.inl rfl, .inl rfl, .inl rfl⟩
  rw [configure_eq, run_bind, Storage.setLifecycle]
  conv => arg 5; rw [← Function.update_eq_self bucket.spec.name s]
  cases hdays : bucket.spec.expirationDays with
  | some days =>
    have hlifecycle : (Configuration.wanted cluster bucket).lifecycle =
        some [Storage.expirationRule days] := by simp [Configuration.wanted, hdays]
    refine achieves_put hold ⟨.inr hlifecycle.symm, .inl rfl, .inl rfl⟩ ?_ fun failure => ⟨_, rfl⟩
    intro u
    exact achieves_protect ⟨.inr hlifecycle.symm, .inl rfl, .inl rfl⟩ hlifecycle.symm
  | none =>
    have hlifecycle : (Configuration.wanted cluster bucket).lifecycle = none := by
      simp [Configuration.wanted, hdays]
    refine achieves_put hold ⟨.inr hlifecycle.symm, .inl rfl, .inl rfl⟩ ?_ fun failure => ⟨_, rfl⟩
    intro u
    exact achieves_protect ⟨.inr hlifecycle.symm, .inl rfl, .inl rfl⟩ hlifecycle.symm

/-! ### The order of a run -/

/-- What is asked in turn. -/
def AsksInTurn (t : Trace World) (c : World.Call) : Prop :=
  ∀ session call, c = .s3 session call → IsInTurn t call

lemma granted_concat {t : Trace World} {s3 : S3Operation} {a : s3.Output} :
    Granted name s3 (t ++ [⟨.s3 session ⟨name, s3⟩, .ok a⟩]) :=
  ⟨session, .ok a, by simp, rfl⟩

lemma asksInTurn_lifecycle {t : Trace World} {s3 : S3Operation} (h : s3.IsLifecycle) :
    AsksInTurn t (.s3 session ⟨name, s3⟩) := by
  rintro _ _ ⟨⟩
  constructor
  · rintro policy rfl
    exact h.elim
  · rintro tags rfl
    exact h.elim

/-- Once the lifecycle was granted, the policy and the tags are asked for in turn. -/
lemma asksInTurn_protect {t : Trace World} {s3 : S3Operation} (h : s3.IsLifecycle)
    (hgranted : Granted bucket.spec.name s3 t) :
    ((Storage.protect cluster bucket).run session).Ensures (Program.recorded World) AsksInTurn
      (fun _ _ => True) t := by
  rw [Storage.protect, run_bind]
  refine ⟨?_, ?_⟩
  · rintro _ _ ⟨⟩
    exact ⟨fun _ _ => ⟨s3, h, hgranted⟩, nofun⟩
  rintro (r : Except Failure Unit) t' rfl
  cases r with
  | error failure => trivial
  | ok u =>
    refine ⟨?_, fun _ _ _ => trivial⟩
    rintro _ _ ⟨⟩
    exact ⟨nofun, fun _ _ => ⟨_, granted_concat⟩⟩

/-- A run of configuring a bucket asks for everything in turn. -/
theorem asksInTurn_configure :
    ((Storage.configure cluster bucket).run session).Ensures (Program.recorded World) AsksInTurn
      (fun _ _ => True) [] := by
  rw [configure_eq, run_bind, Storage.setLifecycle]
  cases bucket.spec.expirationDays with
  | some days =>
    have hset : (S3Operation.putLifecycle [Storage.expirationRule days]).IsLifecycle := trivial
    refine ⟨asksInTurn_lifecycle hset, ?_⟩
    rintro (r : Except Failure Unit) t' rfl
    cases r with
    | error failure => trivial
    | ok u => exact asksInTurn_protect hset granted_concat
  | none =>
    have hdeleted : S3Operation.deleteLifecycle.IsLifecycle := trivial
    refine ⟨asksInTurn_lifecycle hdeleted, ?_⟩
    rintro (r : Except Failure Unit) t' rfl
    cases r with
    | error failure => trivial
    | ok u => exact asksInTurn_protect hdeleted granted_concat

/-! ### The last run counts -/

lemma Configures.other (h : Configures name s s') {other : String} (hother : other ≠ name) :
    s' other = s other := by
  obtain ⟨cluster, bucket, session, rfl, hruns⟩ := h
  exact (achieves_configure.brings hruns).other hother

lemma other_of_runs (h : Relation.ReflTransGen (Configures name) s s') {other : String}
    (hother : other ≠ name) : s' other = s other := by
  induction h with
  | refl => rfl
  | tail _ hlast ih => rw [hlast.other hother, ih]

/-- After any runs for a bucket that end with one that succeeds, all is configured as that one
wanted it, and no other bucket was touched. The same run again changes nothing. Every run writes the
policy only after the lifecycle, and the tags only after the policy. -/
theorem configured_by_last_run {s'' : Configurations} {t : Trace World}
    (hbefore : Relation.ReflTransGen (Configures bucket.spec.name) s s')
    (hlast : ((Storage.configure cluster bucket).run session).Yields t (.ok ()))
    (hworld : Along configuring s' t s'') :
    IsConfigured cluster bucket (s'' bucket.spec.name) ∧
    (∀ other, other ≠ bucket.spec.name → s'' other = s other) ∧
    (∀ s₃, Brings configuring ((Storage.configure cluster bucket).run session) s'' s₃ → s₃ = s'') ∧
    ∀ before session' call (r : World.Call.Answer (.s3 session' call)) after q,
      ((Storage.configure cluster bucket).run session).After
        (before ++ ⟨.s3 session' call, r⟩ :: after) q → IsInTurn before call := by
  obtain ⟨-, hs''⟩ := achieves_configure.along hlast hworld
  have hwanted : s'' bucket.spec.name = .wanted cluster bucket := by
    rw [hs'', update_self]
  refine ⟨?_, ?_, ?_, ?_⟩
  · rw [hwanted]
    exact isConfigured_wanted cluster bucket
  · intro other hother
    rw [hs'', update_of_ne hother, other_of_runs hbefore hother]
  · intro s₃ hagain
    have hhalfway := achieves_configure.brings hagain
    rw [← hwanted] at hhalfway
    exact hhalfway.eq
  · intro before session' call r after q hq
    exact asksInTurn_configure.asked hq session' call rfl

end Runs

/-! ### An expiration that was dropped -/

/-- A record of the bucket `logs`. -/
def logging (expiration : Option Int32) : Bucket where
  metadata := .empty
  spec :=
    { name := "logs"
      expirationDays := expiration
      reclaimPolicy := .retain
      accessRole := none
      tags := [⟨"team", "atlas"⟩, ⟨"team", "rocket"⟩] }
  status := none

/-- A bucket with tags from another time. -/
def stale : Configurations := fun _ => { Configuration.empty with tags := some [⟨"team", "old"⟩] }

/-- A bucket whose objects expire, and nothing else was done since. -/
def expired : Configurations :=
  update stale "logs" { stale "logs" with lifecycle := some [Storage.expirationRule 7] }

/-- A run that stops once objects expire. -/
def brokenTrace : Trace World :=
  [⟨.s3 default ⟨"logs", .putLifecycle [Storage.expirationRule 7]⟩, .ok ()⟩,
    ⟨.s3 default ⟨"logs", .putPolicy (Policy.forBucket "aws" "logs")⟩, .error .dispatch⟩]

/-- A run without an expiration. -/
def droppingTrace : Trace World :=
  [⟨.s3 default ⟨"logs", .deleteLifecycle⟩, .ok ()⟩,
    ⟨.s3 default ⟨"logs", .putPolicy (Policy.forBucket "aws" "logs")⟩, .ok ()⟩,
    ⟨.s3 default ⟨"logs", .putTagging [⟨"team", "rocket"⟩]⟩, .ok ()⟩]

/-- What is left of an earlier run for the same bucket is replaced. -/
theorem expiration_dropped :
    (expired "logs").lifecycle ≠ none ∧
    ∃ after, Along configuring expired droppingTrace after ∧ (after "logs").lifecycle = none := by
  have hbroken : Configures "logs" stale expired := by
    refine ⟨default, logging (some 7), default, rfl, brokenTrace,
      .done (.error (.provider "logs" "put bucket policy" (.aws .dispatch))), ?_, ?_⟩
    · repeat apply Program.After.answered
      exact .here _
    · exact .cons (.inl rfl) (.cons (.inr ⟨rfl, rfl⟩) (.nil _))
  have hlast : ((Storage.configure default (logging none)).run default).Yields droppingTrace
      (.ok ()) := by
    repeat apply Program.After.answered
    exact .here _
  have hworld : Along configuring expired droppingTrace _ :=
    .cons (.inl rfl) (.cons (.inl rfl) (.cons (.inl rfl) (.nil _)))
  obtain ⟨hconfigured, -⟩ := configured_by_last_run (.single hbroken) hlast hworld
  exact ⟨nofun, _, hworld, hconfigured.stays rfl⟩

end BucketOperator.Aws
