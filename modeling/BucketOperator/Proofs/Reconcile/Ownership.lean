import BucketOperator.Proofs.Reconcile.RoleTeardown
import Mathlib.Logic.Relation

/-!
# Who answers for a bucket

Whatever fails, wherever invocations stop, and whatever others do to the record meanwhile, a bucket
that exists is answered for by a record with the operator's finalizer. The one exception is a
bucket whose record was released by an invocation that had read that the bucket is to be retained.
-/

namespace BucketOperator.Reconcile

open Relation (ReflTransGen)

/-! ### What others do to a record -/

/-- Others change what a record says, but not the name of its bucket; they mark it; and they change
its finalizers, but not the operator's. -/
inductive Touches : Option Bucket → Option Bucket → Prop where
  | respecify (bucket : Bucket) (spec : BucketSpec) (h : spec.name = bucket.spec.name) :
      Touches (some bucket) (some { bucket with spec })
  | mark (timestamp : String) (bucket : Bucket) : Touches (some bucket) (marked timestamp bucket)
  | refinalize (bucket : Bucket) (finalizers : List String)
      (h : finalizers.contains Bucket.finalizer = bucket.hasFinalizer Bucket.finalizer) :
      Touches (some bucket) (withFinalizers finalizers bucket)

/-- The record before and after a time in which others may have touched it. -/
def Tended : Option Bucket → Option Bucket → Prop := ReflTransGen Touches

/-- If there is a record, it names this bucket. -/
def Names (bucketName : String) (record : Option Bucket) : Prop :=
  ∀ bucket ∈ record, bucket.spec.name = bucketName

/-- A record that is marked or gone, and that the operator's finalizer does not keep. -/
def IsFinished (record : Option Bucket) : Prop := IsDoomed record ∧ ¬ IsHeld record

section Tending

variable {r r' : Option Bucket} {bucketName : String}

lemma mem_withFinalizers {finalizers : List String} {bucket b : Bucket}
    (h : b ∈ withFinalizers finalizers bucket) :
    b = { bucket with metadata.finalizerList := some finalizers } := by
  unfold withFinalizers at h
  split at h
  · cases h
  · cases h
    rfl

lemma hasFinalizer_withFinalizers {finalizers : List String} {bucket b : Bucket}
    {finalizer : String} (h : b ∈ withFinalizers finalizers bucket) :
    b.hasFinalizer finalizer = finalizers.contains finalizer := by
  rw [mem_withFinalizers h]
  rfl

/-- Finalizers with the operator's among them keep a record. -/
lemma isHeld_withFinalizers {finalizers : List String} {bucket : Bucket} :
    IsHeld (withFinalizers finalizers bucket) ↔ finalizers.contains Bucket.finalizer = true := by
  constructor
  · rintro ⟨b, hb, hf⟩
    rwa [hasFinalizer_withFinalizers hb] at hf
  · intro h
    have hne : finalizers.isEmpty = false := by
      cases finalizers with
      | nil => cases h
      | cons f fs => rfl
    refine ⟨{ bucket with metadata.finalizerList := some finalizers }, ?_, h⟩
    simp [withFinalizers, hne]

lemma Touches.names (h : Touches r r') (hr : Names bucketName r) : Names bucketName r' := by
  cases h with
  | respecify bucket spec hspec =>
    rintro b ⟨⟩
    exact hspec.trans (hr bucket rfl)
  | mark timestamp bucket =>
    intro b hb
    have hterms := (marked_fields hb).1
    have hspec : b.spec = bucket.spec := congrArg Prod.fst hterms
    rw [hspec]
    exact hr bucket rfl
  | refinalize bucket finalizers _ =>
    intro b hb
    rw [mem_withFinalizers hb]
    exact hr bucket rfl

lemma Touches.isHeld_iff (h : Touches r r') : IsHeld r' ↔ IsHeld r := by
  cases h with
  | respecify bucket spec _ =>
    rw [isHeld_some, isHeld_some]
    rfl
  | mark timestamp bucket => exact isHeld_of_marks (.marked timestamp bucket)
  | refinalize bucket finalizers hf => rw [isHeld_withFinalizers, isHeld_some, hf]

lemma Touches.isDoomed (h : Touches r r') (hr : IsDoomed r) : IsDoomed r' := by
  cases h with
  | respecify bucket spec _ =>
    rintro _ ⟨⟩
    exact hr bucket rfl
  | mark timestamp bucket => exact unshaken_isDoomed _ _ hr (.marked timestamp bucket)
  | refinalize bucket finalizers _ =>
    intro b hb
    rw [mem_withFinalizers hb]
    exact hr bucket rfl

lemma Tended.trans {r₁ r₂ r₃ : Option Bucket} (h : Tended r₁ r₂) (h' : Tended r₂ r₃) :
    Tended r₁ r₃ := ReflTransGen.trans h h'

lemma Tended.names (h : Tended r r') (hr : Names bucketName r) : Names bucketName r' := by
  induction h with
  | refl => exact hr
  | tail _ h ih => exact h.names ih

lemma Tended.isHeld_iff (h : Tended r r') : IsHeld r' ↔ IsHeld r := by
  induction h with
  | refl => rfl
  | tail _ h ih => exact h.isHeld_iff.trans ih

lemma Tended.isDoomed (h : Tended r r') (hr : IsDoomed r) : IsDoomed r' := by
  induction h with
  | refl => exact hr
  | tail _ h ih => exact h.isDoomed ih

lemma Tended.isFinished (h : Tended r r') (hr : IsFinished r) : IsFinished r' :=
  ⟨h.isDoomed hr.1, fun hheld => hr.2 (h.isHeld_iff.1 hheld)⟩

lemma tended_of_marks (h : Marks r r') : Tended r r' := by
  cases h with
  | unmarked => exact .refl
  | marked timestamp bucket => exact .single (.mark timestamp bucket)

end Tending

/-! ### Edits of a record -/

section Edits

variable {bucket : Bucket} {before after : Option Bucket} {outcome : Except Failure Unit}
  {finalizers : Option (List String)} {bucketName : String}

lemma Refinalized.names (h : Refinalized finalizers outcome before after)
    (hbefore : Names bucketName before) : Names bucketName after := by
  unfold Refinalized at h
  split at h
  · cases before with
    | none =>
      obtain ⟨_, rfl⟩ := h
      exact hbefore
    | some b =>
      rcases h with rfl | ⟨_, rfl⟩
      · intro b' hb'
        rw [mem_withFinalizers hb']
        exact hbefore b rfl
      · exact hbefore
  · obtain ⟨_, rfl⟩ := h
    exact hbefore

/-- Adding the finalizer with success leaves a record that has it, if one had it before whenever
the operator's copy does. -/
lemma isHeld_of_addFinalizer
    (h : Refinalized (Kubernetes.withFinalizer? bucket.metadata.finalizers Bucket.finalizer)
      (.ok ()) before after)
    (hbefore : bucket.hasFinalizer Bucket.finalizer = true → IsHeld before) : IsHeld after := by
  cases hw : Kubernetes.withFinalizer? bucket.metadata.finalizers Bucket.finalizer with
  | none =>
    rw [hw] at h
    obtain ⟨_, rfl⟩ := h
    exact hbefore (hasFinalizer_iff_mem.2 (Kubernetes.withFinalizer?_eq_none_iff.1 hw))
  | some finalizers =>
    rw [hw] at h
    obtain ⟨-, rfl⟩ := Kubernetes.withFinalizer?_eq_some_iff.1 hw
    cases before with
    | none =>
      obtain ⟨hne, _⟩ := h
      exact absurd rfl hne
    | some b =>
      rcases h with rfl | ⟨hne, _⟩
      · rw [isHeld_withFinalizers]
        simp
      · exact absurd rfl hne

/-- Whatever comes of adding the finalizer, it does not remove it. -/
lemma isHeld_of_refinalized_addFinalizer
    (h : Refinalized (Kubernetes.withFinalizer? bucket.metadata.finalizers Bucket.finalizer)
      outcome before after) (hbefore : IsHeld before) : IsHeld after := by
  cases hw : Kubernetes.withFinalizer? bucket.metadata.finalizers Bucket.finalizer with
  | none =>
    rw [hw] at h
    obtain ⟨_, rfl⟩ := h
    exact hbefore
  | some finalizers =>
    rw [hw] at h
    obtain ⟨-, rfl⟩ := Kubernetes.withFinalizer?_eq_some_iff.1 hw
    cases before with
    | none => exact absurd hbefore not_isHeld_none
    | some b =>
      rcases h with rfl | ⟨_, rfl⟩
      · rw [isHeld_withFinalizers]
        simp
      · exact hbefore

lemma Refinalized.isDoomed (h : Refinalized finalizers outcome before after)
    (hbefore : IsDoomed before) : IsDoomed after := by
  unfold Refinalized at h
  split at h
  · cases before with
    | none =>
      obtain ⟨_, rfl⟩ := h
      exact hbefore
    | some b =>
      rcases h with rfl | ⟨_, rfl⟩
      · intro b' hb'
        rw [mem_withFinalizers hb']
        exact hbefore b rfl
      · exact hbefore
  · obtain ⟨_, rfl⟩ := h
    exact hbefore

lemma eq_of_removeFinalizer (habsent : ¬ bucket.hasFinalizer Bucket.finalizer = true)
    (h : Refinalized (Kubernetes.withoutFinalizer? bucket.metadata.finalizers Bucket.finalizer)
      outcome before after) : after = before := by
  rw [Kubernetes.withoutFinalizer?_eq_none_iff.2 (mt hasFinalizer_iff_mem.2 habsent)] at h
  exact h.2

/-- Writing the status changes neither what the record says nor its finalizers. -/
lemma Edited.patchStatus {status : BucketStatus}
    (h : Edited (fun b => some { b with status := some status }) outcome before after) :
    (∀ bucketName, Names bucketName before → Names bucketName after) ∧
      (IsHeld before → IsHeld after) := by
  cases before with
  | none =>
    obtain ⟨_, rfl⟩ := h
    exact ⟨fun _ => id, id⟩
  | some b =>
    rcases h with rfl | ⟨_, rfl⟩
    · constructor
      · rintro bucketName hb _ ⟨⟩
        exact hb b rfl
      · intro hb
        rw [isHeld_some] at hb ⊢
        exact hb
    · exact ⟨fun _ => id, id⟩

end Edits

/-! ### Runs of invocations -/

section Runs

variable {π : Type} (adapters : Adapters π)

/-- The collaborators of a record that others may touch before every answer. That a marked record
takes no new finalizers is one of the ways in which a call may fail. -/
def shared : Behaviour Collaborators (Situation π) := fun s c r s' =>
  ∃ record, Tended s.record record ∧ Answers adapters ⟨record, s.provider⟩ c r s'

/-- An invocation that has got some answers, and may stop there, takes a situation to another. -/
def Conducted (namespaceName name : String) (t : Trace Collaborators)
    (s s' : Situation π) : Prop :=
  ∃ rest record, (invoke namespaceName name).After t rest ∧
    Along (shared adapters) s t ⟨record, s'.provider⟩ ∧ Tended record s'.record

/-- Invocations one after the other, each with the answers it got. -/
structure Chronicle (namespaceName name : String) where
  situation : Nat → Situation π
  trace : Nat → Trace Collaborators
  next : ∀ n, Conducted adapters namespaceName name (trace n) (situation n) (situation (n + 1))

/-- An absence is reported only of a bucket that is absent, nothing but a change other than a
deletion adds a bucket, and a bucket that was deleted with success is gone. -/
structure IsFaithful (Has : String → π → Prop) : Prop where
  absent : ∀ b p p', adapters.doesExist b p (.ok false) p' → ¬ Has b.spec.name p
  asked : ∀ b p r p' n, adapters.doesExist b p r p' → Has n p' → Has n p
  kept : ∀ c b p r p' n, c = .deleteBucket ∨ c = .deleteRole → adapters.change c b p r p' →
    Has n p' → Has n p
  deleted : ∀ b p p', adapters.change .deleteBucket b p (.ok ()) p' → ¬ Has b.spec.name p'

end Runs

/-- A record that was read as one whose bucket is to be retained was to be released. -/
def LetsRetainedGo (namespaceName name : String) (t : Trace Collaborators) : Prop :=
  ∃ (bucket : Bucket) (r : Except Failure Unit),
    (⟨.load namespaceName name, .ok (some bucket)⟩ : Exchange Collaborators) ∈ t ∧
      bucket.spec.reclaimPolicy = .retain ∧
      (⟨.removeFinalizer bucket, r⟩ : Exchange Collaborators) ∈ t

/-- In one of the invocations the finalizer was removed for ever, and the invocation had read that
the bucket is to be retained. -/
structure Chronicle.Relinquishes {π : Type} {adapters : Adapters π} {namespaceName name : String}
    (chronicle : Chronicle adapters namespaceName name) (n : Nat) : Prop where
  held : IsHeld (chronicle.situation n).record
  released : ∀ m, n < m → ¬ IsHeld (chronicle.situation m).record
  retained : LetsRetainedGo namespaceName name (chronicle.trace n)

/-! ### What is known wherever an invocation stands -/

section Standing

variable {π : Type} {adapters : Adapters π} {Has : String → π → Prop}
  {namespaceName name bucketName : String} {s₀ : Situation π}
  {x : Situation π × Trace Collaborators} {bucket : Bucket} {provider : CloudProvider}

variable (Has namespaceName name bucketName s₀) in
/-- Wherever an invocation stands that began in a situation: if a record answered for the bucket
then, one still does, unless a marked record was released whose bucket is to be retained. -/
structure IsAccounted (x : Situation π × Trace Collaborators) : Prop where
  names : Names bucketName s₀.record → Names bucketName x.1.record
  owned : (Has bucketName s₀.provider → IsHeld s₀.record) → Has bucketName x.1.provider →
    IsHeld x.1.record ∨
      IsHeld s₀.record ∧ IsDoomed x.1.record ∧ LetsRetainedGo namespaceName name x.2
  finished : IsFinished s₀.record → IsFinished x.1.record

variable (Has bucketName s₀) in
/-- Nothing has been done to the record or added at the provider. -/
structure IsWaiting (x : Situation π × Trace Collaborators) : Prop where
  record : Tended s₀.record x.1.record
  provider : Has bucketName x.1.provider → Has bucketName s₀.provider

variable (Has namespaceName name bucketName s₀ bucket) in
/-- The record has been read, and nothing has been done to it or added at the provider. -/
structure HasRead (x : Situation π × Trace Collaborators) : Prop where
  loaded : (⟨.load namespaceName name, .ok (some bucket)⟩ : Exchange Collaborators) ∈ x.2
  copy : Tended s₀.record (some bucket)
  record : Tended (some bucket) x.1.record
  provider : Has bucketName x.1.provider → Has bucketName s₀.provider

variable (bucketName s₀) in
/-- The record has the finalizer. -/
structure IsPlacing (x : Situation π × Trace Collaborators) : Prop where
  names : Names bucketName s₀.record → Names bucketName x.1.record
  held : IsHeld x.1.record
  unfinished : ¬ IsFinished s₀.record

lemma IsWaiting.isAccounted (h : IsWaiting Has bucketName s₀ x) :
    IsAccounted Has namespaceName name bucketName s₀ x where
  names := h.record.names
  owned hs₀ hx := .inl (h.record.isHeld_iff.2 (hs₀ (h.provider hx)))
  finished := h.record.isFinished

lemma HasRead.isWaiting (h : HasRead Has namespaceName name bucketName s₀ bucket x) :
    IsWaiting Has bucketName s₀ x :=
  ⟨h.copy.trans h.record, h.provider⟩

lemma IsPlacing.isAccounted (h : IsPlacing bucketName s₀ x) :
    IsAccounted Has namespaceName name bucketName s₀ x where
  names := h.names
  owned _ _ := .inl h.held
  finished hs₀ := absurd hs₀ h.unfinished

/-- What is accounted for stays so while others touch the record. -/
lemma IsAccounted.tended {record : Option Bucket} {t : Trace Collaborators}
    (h : IsAccounted Has namespaceName name bucketName s₀ x) (hm : Tended x.1.record record)
    (ht : x.2 ⊆ t) :
    IsAccounted Has namespaceName name bucketName s₀ (⟨record, x.1.provider⟩, t) where
  names hs₀ := hm.names (h.names hs₀)
  owned hs₀ hhas := by
    rcases h.owned hs₀ hhas with hheld | ⟨hheld, hdoomed, bucket, r, hload, hpolicy, hremove⟩
    · exact .inl (hm.isHeld_iff.2 hheld)
    · exact .inr ⟨hheld, hm.isDoomed hdoomed, bucket, r, ht hload, hpolicy, ht hremove⟩
  finished hs₀ := hm.isFinished (h.finished hs₀)

/-- What others may not disturb, nor the answer to a call that changes nothing. -/
def IsSteady (P : Situation π × Trace Collaborators → Prop) : Prop :=
  ∀ s t record e, P (s, t) → Tended s.record record → P (⟨record, s.provider⟩, t ++ [e])

lemma isSteady_isWaiting : IsSteady (IsWaiting Has bucketName s₀) :=
  fun _ _ _ _ h hm => ⟨h.record.trans hm, h.provider⟩

lemma isSteady_hasRead : IsSteady (HasRead Has namespaceName name bucketName s₀ bucket) :=
  fun _ _ _ _ h hm => ⟨List.mem_append_left _ h.loaded, h.copy, h.record.trans hm, h.provider⟩

/-- Placing is a matter of the record alone. -/
lemma IsPlacing.tended {x' : Situation π × Trace Collaborators} (h : IsPlacing bucketName s₀ x)
    (hm : Tended x.1.record x'.1.record) : IsPlacing bucketName s₀ x' :=
  ⟨fun hs₀ => hm.names (h.names hs₀), hm.isHeld_iff.2 h.held, h.unfinished⟩

lemma isSteady_isPlacing : IsSteady (IsPlacing (π := π) bucketName s₀) :=
  fun _ _ _ _ h hm => h.tended hm

lemma isSteady_isAccounted : IsSteady (IsAccounted Has namespaceName name bucketName s₀) :=
  fun _ _ _ _ h hm => h.tended hm (List.subset_append_left _ _)

/-- Some steps leave the bucket accounted for, wherever they stop. -/
abbrev Accounts (adapters : Adapters π) (Has : String → π → Prop)
    (namespaceName name bucketName : String) (s₀ : Situation π) (steps : Steps Outcome)
    (x : Situation π × Trace Collaborators) : Prop :=
  steps.run.Ensures (shared adapters).recording
    (fun x _ => IsAccounted Has namespaceName name bucketName s₀ x)
    (fun x _ => IsAccounted Has namespaceName name bucketName s₀ x) x

lemma quiet_of_isSteady {P : Situation π × Trace Collaborators → Prop} (hP : IsSteady P)
    (haccounted : ∀ x, P x → IsAccounted Has namespaceName name bucketName s₀ x) :
    Quiet (shared adapters).recording
      (fun x _ => IsAccounted Has namespaceName name bucketName s₀ x) P := by
  rintro ⟨s, t⟩ c hx hc
  refine ⟨haccounted _ hx, ?_⟩
  rintro r ⟨s', t'⟩ ⟨⟨record, hm, hr⟩, rfl⟩
  cases c with
  | clock =>
    cases hr
    exact hP s t record _ hx hm
  | record e =>
    cases hr
    exact hP s t record _ hx hm
  | _ => cases hc

/-! ### Placing -/

/-- A call to the adapters does not touch the record. -/
lemma accounts_placing_bind {α : Type} {c : Call} {outcomeOf : c.Answer → Except Failure α}
    {operation : String} {f : α → Steps Outcome}
    (hcall : ∀ s r s', Answers adapters s c r s' → s'.record = s.record)
    (hf : ∀ r a x, outcomeOf r = .ok a → IsPlacing bucketName s₀ x →
      Accounts adapters Has namespaceName name bucketName s₀ (f a) x)
    (hx : IsPlacing bucketName s₀ x) :
    Accounts adapters Has namespaceName name bucketName s₀
      (Steps.observe provider operation (.ask c fun r => .done (outcomeOf r)) >>= f) x := by
  have hquiet : Quiet (shared adapters).recording
      (fun x _ => IsAccounted Has namespaceName name bucketName s₀ x)
      (IsPlacing bucketName s₀) :=
    quiet_of_isSteady isSteady_isPlacing fun x hx => hx.isAccounted
  refine ensures_observe_bind (R := fun _ => IsPlacing bucketName s₀) hquiet
    (fun x hx => hx.isAccounted) ?_ (fun _ => hquiet) (fun _ _ x _ hx => hx.isAccounted) hf hx
  rintro x r x' hx ⟨⟨record, hm, hr⟩, -⟩
  refine hx.tended ?_
  rw [hcall _ r _ hr]
  exact hm

lemma accounts_change_bind {c : Change} {f : Unit → Steps Outcome}
    (hf : ∀ x, IsPlacing bucketName s₀ x →
      Accounts adapters Has namespaceName name bucketName s₀ (f ()) x)
    (hx : IsPlacing bucketName s₀ x) :
    Accounts adapters Has namespaceName name bucketName s₀
      (Steps.change provider c bucket >>= f) x := by
  refine accounts_placing_bind ?_ (fun _ _ x _ hx => hf x hx) hx
  rintro s r s' ⟨hrecord, -⟩
  exact hrecord

lemma accounts_report (hx : IsPlacing bucketName s₀ x) :
    Accounts adapters Has namespaceName name bucketName s₀ (report bucket) x := by
  unfold report
  split
  · have hpatched : ∀ r x', (shared adapters).recording x
        (.patchStatus bucket bucket.readyStatus) r x' → IsPlacing bucketName s₀ x' := by
      rintro r ⟨s', t'⟩ ⟨⟨record, hm, -, hedit⟩, rfl⟩
      refine ⟨fun hs₀ => ?_, ?_, hx.unfinished⟩
      · exact hedit.patchStatus.1 _ (hm.names (hx.names hs₀))
      · exact hedit.patchStatus.2 (hm.isHeld_iff.2 hx.held)
    refine ensures_ask_bind hx.isAccounted ?_ ?_
    · intro r failure x' h _
      exact (hpatched r x' h).isAccounted
    · intro r a x' h _
      exact (hpatched r x' h).isAccounted
  · exact hx.isAccounted

lemma accounts_place {found : Bool} (hx : IsPlacing bucketName s₀ x) :
    Accounts adapters Has namespaceName name bucketName s₀ (place provider bucket found) x := by
  refine accounts_change_bind ?_ hx
  intro x hx
  refine accounts_change_bind ?_ hx
  intro x hx
  split
  · refine accounts_change_bind ?_ hx
    intro x hx
    exact accounts_report hx
  · exact accounts_report hx

/-- Once the finalizer has been added, the record keeps it. -/
lemma accounts_converge (alive : bucket.isBeingDeleted = false)
    (hx : HasRead Has namespaceName name bucketName s₀ bucket x) :
    Accounts adapters Has namespaceName name bucketName s₀ (converge provider bucket) x := by
  have hunfinished : ¬ IsFinished s₀.record := by
    intro hs₀
    have hdoomed := (hx.copy.isFinished hs₀).1 bucket rfl
    rw [alive] at hdoomed
    cases hdoomed
  rw [converge_eq]
  refine ensures_ask_bind hx.isWaiting.isAccounted ?_ ?_
  · rintro r failure ⟨s', t'⟩ ⟨⟨record, hm, hprovider, hedit⟩, rfl⟩ -
    have hrecord : Tended s₀.record record := hx.isWaiting.record.trans hm
    constructor
    · exact fun hs₀ => hedit.names (hrecord.names hs₀)
    · intro hs₀ hhas
      have hhas₀ : Has bucketName s₀.provider := by
        apply hx.provider
        rw [← show s'.provider = x.1.provider from hprovider]
        exact hhas
      exact .inl (isHeld_of_refinalized_addFinalizer hedit (hrecord.isHeld_iff.2 (hs₀ hhas₀)))
    · exact fun hs₀ => absurd hs₀ hunfinished
  rintro r ⟨⟩ ⟨s', t'⟩ ⟨⟨record, hm, hprovider, hedit⟩, rfl⟩ rfl
  have hplacing : IsPlacing bucketName s₀ (s', x.2 ++ [⟨.addFinalizer bucket, .ok ()⟩]) := by
    refine ⟨fun hs₀ => ?_, ?_, hunfinished⟩
    · exact hedit.names ((hx.isWaiting.record.trans hm).names hs₀)
    · refine isHeld_of_addFinalizer hedit ?_
      intro hpresent
      exact (hx.record.trans hm).isHeld_iff.2 (isHeld_some.2 hpresent)
  refine accounts_placing_bind ?_ (fun _ _ x _ hx => accounts_place hx) hplacing
  rintro s r s' ⟨hrecord, -⟩
  exact hrecord

/-! ### Releasing -/

/-- A call to the adapters that adds no bucket is followed by more steps unless it fails. -/
lemma accounts_read_bind {α : Type} {c : Call} {outcomeOf : c.Answer → Except Failure α}
    {operation : String} {f : α → Steps Outcome} {G : π → Prop} {K : c.Answer → π → Prop}
    (hcall : ∀ s r s', G s.provider → Answers adapters s c r s' → s'.record = s.record ∧
      (Has bucketName s'.provider → Has bucketName s.provider) ∧ K r s'.provider)
    (hf : ∀ r a x, outcomeOf r = .ok a →
      HasRead Has namespaceName name bucketName s₀ bucket x → K r x.1.provider →
      Accounts adapters Has namespaceName name bucketName s₀ (f a) x)
    (hx : HasRead Has namespaceName name bucketName s₀ bucket x) (hG : G x.1.provider) :
    Accounts adapters Has namespaceName name bucketName s₀
      (Steps.observe provider operation (.ask c fun r => .done (outcomeOf r)) >>= f) x := by
  have hquiet : ∀ H : π → Prop, Quiet (shared adapters).recording
      (fun x _ => IsAccounted Has namespaceName name bucketName s₀ x)
      fun x => HasRead Has namespaceName name bucketName s₀ bucket x ∧ H x.1.provider := by
    intro H
    refine quiet_of_isSteady ?_ fun _ hx => hx.1.isWaiting.isAccounted
    rintro s t record e ⟨hx, hH⟩ hm
    exact ⟨isSteady_hasRead s t record e hx hm, hH⟩
  refine ensures_observe_bind (R := fun r x => HasRead Has namespaceName name bucketName s₀
      bucket x ∧ K r x.1.provider) (hquiet G) (fun _ hx => hx.1.isWaiting.isAccounted) ?_
    (fun r => hquiet (K r)) (fun _ _ _ _ hx => hx.1.isWaiting.isAccounted) ?_ ⟨hx, hG⟩
  · rintro x r ⟨s', t'⟩ ⟨hx, hG⟩ ⟨⟨record, hm, hr⟩, rfl⟩
    obtain ⟨hrecord, hprovider, hK⟩ := hcall ⟨record, x.1.provider⟩ r s' hG hr
    refine ⟨⟨List.mem_append_left _ hx.loaded, hx.copy, ?_, fun hhas => ?_⟩, hK⟩
    · exact hrecord ▸ hx.record.trans hm
    · exact hx.provider (hprovider hhas)
  · rintro r a x ha ⟨hx, hK⟩
    exact hf r a x ha hx hK

/-- A release may come to its end when the bucket is gone or to be retained. -/
lemma accounts_letGo (marked : bucket.isBeingDeleted = true)
    (hx : HasRead Has namespaceName name bucketName s₀ bucket x)
    (hgone : Has bucketName x.1.provider → bucket.spec.reclaimPolicy = .retain) :
    Accounts adapters Has namespaceName name bucketName s₀ (letGo bucket) x := by
  have hreleased : ∀ r x', (shared adapters).recording x (.removeFinalizer bucket) r x' →
      IsAccounted Has namespaceName name bucketName s₀ x' := by
    rintro r ⟨s', t'⟩ ⟨⟨record, hm, hprovider, hedit⟩, rfl⟩
    have hrecord : Tended s₀.record record := hx.isWaiting.record.trans hm
    have hsame : s'.provider = x.1.provider := hprovider
    have hdoomed : IsDoomed s'.record :=
      hedit.isDoomed ((hx.record.trans hm).isDoomed (isDoomed_some.2 marked))
    constructor
    · exact fun hs₀ => hedit.names (hrecord.names hs₀)
    · intro hs₀ hhas
      have hhas' : Has bucketName x.1.provider := hsame ▸ hhas
      refine .inr ⟨hs₀ (hx.provider hhas'), hdoomed, bucket, r, ?_, hgone hhas', ?_⟩
      · exact List.mem_append_left _ hx.loaded
      · exact List.mem_append_right _ (List.mem_singleton.2 rfl)
    · intro hs₀
      have habsent : ¬ bucket.hasFinalizer Bucket.finalizer = true :=
        fun hpresent => (hx.copy.isFinished hs₀).2 (isHeld_some.2 hpresent)
      have hunchanged : s'.record = record := eq_of_removeFinalizer habsent hedit
      exact hunchanged ▸ hrecord.isFinished hs₀
  refine ensures_ask_bind hx.isWaiting.isAccounted ?_ ?_
  · intro r failure x' h _
    exact hreleased r x' h
  · intro r a x' h _
    exact hreleased r x' h

variable (hfaithful : IsFaithful adapters Has) (hnames : Names bucketName (some bucket))
  (marked : bucket.isBeingDeleted = true)

include hfaithful hnames marked

lemma accounts_purge (hx : HasRead Has namespaceName name bucketName s₀ bucket x) :
    Accounts adapters Has namespaceName name bucketName s₀ (purge provider bucket) x := by
  refine accounts_read_bind (G := fun _ => True)
    (K := fun (r : Except Failure Unit) p => r = .ok () → ¬ Has bucketName p) ?_ ?_ hx trivial
  · rintro s r s' - ⟨hrecord, hr⟩
    refine ⟨hrecord, hfaithful.kept _ bucket _ r _ bucketName (.inl rfl) hr, ?_⟩
    rintro rfl
    exact hnames bucket rfl ▸ hfaithful.deleted bucket _ _ hr
  rintro _ ⟨⟩ x rfl hx hgone
  -- Counting the deletion is a note, which others may accompany.
  rw [Accounts, Program.ensures_steps_bind]
  refine ⟨hx.isWaiting.isAccounted, ?_⟩
  rintro u ⟨s', t'⟩ ⟨⟨record, hm, rfl⟩, rfl⟩
  have hx' := isSteady_hasRead x.1 x.2 record ⟨.record (.bucketDeleted bucket.spec.name), u⟩ hx hm
  rw [Program.ensures_done]
  change Accounts adapters Has namespaceName name bucketName s₀ (if _ then _ else _) _
  split
  · refine accounts_read_bind (G := fun p => ¬ Has bucketName p)
      (K := fun _ p => ¬ Has bucketName p) ?_ ?_ hx' (hgone rfl)
    · rintro s r s' habsent ⟨hrecord, hr⟩
      have hkept := hfaithful.kept _ bucket _ r _ bucketName (.inr rfl) hr
      exact ⟨hrecord, hkept, fun hhas => habsent (hkept hhas)⟩
    · intro r a x _ hx habsent
      exact accounts_letGo marked hx fun hhas => absurd hhas habsent
  · exact accounts_letGo marked hx' fun hhas => absurd hhas (hgone rfl)

lemma accounts_release (hx : HasRead Has namespaceName name bucketName s₀ bucket x) :
    Accounts adapters Has namespaceName name bucketName s₀ (release provider bucket) x := by
  rw [release_eq]
  refine accounts_read_bind (G := fun _ => True)
    (K := fun (r : Except Failure Bool) p => r = .ok false → ¬ Has bucketName p) ?_ ?_ hx trivial
  · rintro s r s' - ⟨hrecord, hr⟩
    have hasked := hfaithful.asked bucket _ r _ bucketName hr
    refine ⟨hrecord, hasked, ?_⟩
    rintro rfl hhas
    apply hfaithful.absent bucket _ _ hr
    rw [hnames bucket rfl]
    exact hasked hhas
  rintro _ found x rfl hx hgone
  split
  · exact accounts_purge hfaithful hnames marked hx
  · rename_i hkeep
    refine accounts_letGo marked hx ?_
    intro hhas
    cases found with
    | false => exact absurd hhas (hgone rfl)
    | true =>
      cases hpolicy : bucket.spec.reclaimPolicy with
      | retain => rfl
      | delete => simp [hpolicy] at hkeep

/-! ### Invocations -/

omit hnames marked in
lemma accounts_proceed (hs₀ : Names bucketName s₀.record)
    (hx : HasRead Has namespaceName name bucketName s₀ bucket x) :
    Accounts adapters Has namespaceName name bucketName s₀ (proceed bucket) x := by
  refine ensures_ask_bind hx.isWaiting.isAccounted ?_ ?_
  · rintro r failure ⟨s', t'⟩ ⟨⟨record, hm, rfl, -⟩, rfl⟩ -
    exact (isSteady_hasRead x.1 x.2 record _ hx hm).isWaiting.isAccounted
  rintro r cluster ⟨s', t'⟩ ⟨⟨record, hm, rfl, -⟩, rfl⟩ -
  have hx₁ := isSteady_hasRead x.1 x.2 record ⟨.resolve, r⟩ hx hm
  refine ensures_ask_bind hx₁.isWaiting.isAccounted ?_ ?_
  · rintro r' failure ⟨s', t'⟩ ⟨⟨record', hm', rfl⟩, rfl⟩ -
    exact (isSteady_hasRead _ _ record' _ hx₁ hm').isWaiting.isAccounted
  rintro r' u ⟨s', t'⟩ ⟨⟨record', hm', rfl⟩, rfl⟩ -
  have hx₂ := isSteady_hasRead _ _ record' ⟨.services cluster, r'⟩ hx₁ hm'
  split
  · rename_i marked
    exact accounts_release hfaithful (hx.copy.names hs₀) marked hx₂
  · rename_i alive
    exact accounts_converge (Bool.not_eq_true _ ▸ alive) hx₂

omit hnames marked in
lemma accounts_reconcile (hs₀ : Names bucketName s₀.record)
    (hx : IsWaiting Has bucketName s₀ x) :
    Accounts adapters Has namespaceName name bucketName s₀ (reconcile namespaceName name) x := by
  rw [reconcile_eq]
  refine ensures_ask_bind hx.isAccounted ?_ ?_
  · rintro r failure ⟨s', t'⟩ ⟨⟨record, hm, rfl, -⟩, rfl⟩ -
    exact (isSteady_isWaiting x.1 x.2 record _ hx hm).isAccounted
  rintro _ found ⟨s', t'⟩ ⟨⟨record, hm, rfl, hfound⟩, rfl⟩ rfl
  have hx' := isSteady_isWaiting x.1 x.2 record
    ⟨.load namespaceName name, .ok found⟩ hx hm
  cases hfound found rfl
  cases record with
  | none => exact hx'.isAccounted
  | some bucket =>
    refine accounts_proceed hfaithful hs₀ ⟨?_, hx'.record, .refl, hx'.provider⟩
    exact List.mem_append_right _ (List.mem_singleton.2 rfl)

omit hnames marked in
lemma accounts_invoke (hs₀ : Names bucketName s₀.record) :
    (invoke namespaceName name).Ensures (shared adapters).recording
      (fun x _ => IsAccounted Has namespaceName name bucketName s₀ x)
      (fun x _ => IsAccounted Has namespaceName name bucketName s₀ x) (s₀, []) := by
  refine ensures_invoke (A := IsWaiting Has bucketName s₀) ⟨.refl, id⟩ ?_ ?_
  · exact quiet_of_isSteady isSteady_isWaiting fun _ hx => hx.isAccounted
  · intro x hx
    refine (accounts_reconcile hfaithful hs₀ hx).mono (fun _ _ h => h) ?_
    rintro x' (_ | outcome) hx'
    · exact hx'
    · exact ⟨IsAccounted Has namespaceName name bucketName s₀, hx',
        quiet_of_isSteady isSteady_isAccounted fun _ hx => hx, fun _ hx => hx⟩

omit hnames marked in
/-- Wherever an invocation stops, and whatever others do then, the bucket is accounted for. -/
lemma Conducted.isAccounted {t : Trace Collaborators} {s s' : Situation π}
    (h : Conducted adapters namespaceName name t s s') (hs : Names bucketName s.record) :
    IsAccounted Has namespaceName name bucketName s (s', t) := by
  obtain ⟨rest, record, hrest, ht, hm⟩ := h
  have hstands := ((accounts_invoke hfaithful hs).along hrest (ht.recording [])).holds
  exact hstands.tended hm (List.Subset.refl _)

end Standing

/-! ### Chronicles -/

section Chronicles

variable {π : Type} {adapters : Adapters π} {Has : String → π → Prop}
  {namespaceName name bucketName : String} (chronicle : Chronicle adapters namespaceName name)
  (hfaithful : IsFaithful adapters Has)

include hfaithful

lemma Chronicle.names (hstart : Names bucketName (chronicle.situation 0).record) (n : Nat) :
    Names bucketName (chronicle.situation n).record := by
  induction n with
  | zero => exact hstart
  | succ n ih => exact ((chronicle.next n).isAccounted hfaithful ih).names ih

/-- What is finished stays so. -/
lemma Chronicle.isFinished_of_le (hstart : Names bucketName (chronicle.situation 0).record)
    {m n : Nat} (hmn : m ≤ n) (hm : IsFinished (chronicle.situation m).record) :
    IsFinished (chronicle.situation n).record := by
  induction hmn with
  | refl => exact hm
  | @step n _ ih =>
    have hnames := chronicle.names hfaithful hstart n
    exact ((chronicle.next n).isAccounted hfaithful hnames).finished ih

/-- A bucket that was not there at first is answered for by a record with the finalizer at
whatever call an invocation stops, or has been let go by one that had read to retain it. -/
theorem held_or_relinquished (hstart : Names bucketName (chronicle.situation 0).record)
    (habsent : ¬ Has bucketName (chronicle.situation 0).provider) {n : Nat}
    (hhas : Has bucketName (chronicle.situation n).provider) :
    IsHeld (chronicle.situation n).record ∨ ∃ j < n, chronicle.Relinquishes j := by
  induction n with
  | zero => exact absurd hhas habsent
  | succ n ih =>
    by_cases hearlier : ∃ j < n, chronicle.Relinquishes j
    · obtain ⟨j, hj, hrelinquishes⟩ := hearlier
      exact .inr ⟨j, Nat.lt_succ_of_lt hj, hrelinquishes⟩
    have hheld : Has bucketName (chronicle.situation n).provider →
        IsHeld (chronicle.situation n).record :=
      fun h => (ih h).resolve_right hearlier
    have hnames := chronicle.names hfaithful hstart n
    have haccounted := (chronicle.next n).isAccounted hfaithful hnames
    by_cases hnext : IsHeld (chronicle.situation (n + 1)).record
    · exact .inl hnext
    obtain ⟨hbefore, hdoomed, hretained⟩ :=
      (haccounted.owned hheld hhas).resolve_left hnext
    have hreleased : ∀ m, n < m → ¬ IsHeld (chronicle.situation m).record := by
      intro m hm
      exact (chronicle.isFinished_of_le hfaithful hstart hm ⟨hdoomed, hnext⟩).2
    exact .inr ⟨n, Nat.lt_succ_self n, hbefore, hreleased, hretained⟩

end Chronicles

/-! ### A bucket that is retained -/

/-- A marked record of a bucket that is to be retained. -/
def retired : Bucket := { doomed with spec.reclaimPolicy := .retain }

/-- The record before it was marked. -/
def retained : Bucket := { retired with metadata.deletionTimestamp := none }

/-- The record before the operator saw it. -/
def unseen : Bucket := { retained with metadata.finalizerList := none }

/-- An invocation that stops once it has created the bucket. -/
def creatingTrace : Trace Collaborators :=
  ⟨.clock, (0 : Nat)⟩ :: (begun unseen default ++
    (⟨.addFinalizer unseen, .ok ()⟩ ::
      (noted .aws (.doesExist unseen) (.ok false) "exists_bucket" true ++
        noted .aws (.change .createBucket unseen) (.ok ()) "create_bucket" true)))

/-- A release that keeps the bucket. -/
def retainingTrace : Trace Collaborators :=
  ⟨.clock, (0 : Nat)⟩ :: (begun retired default ++
    (noted .aws (.doesExist retired) (.ok true) "exists_bucket" true ++
      [⟨.removeFinalizer retired, .ok ()⟩]))

lemma Along.shared_of_attended {π : Type} {adapters : Adapters π} {s s' : Situation π}
    {t : Trace Collaborators} (h : Along (attended adapters) s t s') :
    Along (shared adapters) s t s' := by
  refine h.mono ?_
  rintro s c r s' ⟨record, hm, hr⟩
  exact ⟨record, tended_of_marks hm, hr⟩

lemma conducted_creating :
    Conducted (holdings default) "monitoring" "logs" creatingTrace ⟨some unseen, ⟨false, false⟩⟩
      ⟨some retired, ⟨true, false⟩⟩ := by
  have hadded : Answers (holdings default) ⟨some unseen, ⟨false, false⟩⟩ (.addFinalizer unseen)
      (.ok ()) ⟨some retained, ⟨false, false⟩⟩ := ⟨rfl, .inl rfl⟩
  have habsent : Answers (holdings default) ⟨some retained, ⟨false, false⟩⟩ (.doesExist unseen)
      (.ok false) ⟨some retained, ⟨false, false⟩⟩ := by
    refine ⟨rfl, rfl, ?_⟩
    rintro _ ⟨⟩
    rfl
  have hcreated : Answers (holdings default) ⟨some retained, ⟨false, false⟩⟩
      (.change .createBucket unseen) (.ok ()) ⟨some retained, ⟨true, false⟩⟩ := ⟨rfl, .inl rfl⟩
  refine ⟨?rest, some retained, ?_, Along.shared_of_attended ?_, ?_⟩
  rotate_left
  · repeat apply Program.After.answered
    exact .here _
  · refine .cons (Answers.attended rfl) ((along_begun rfl).append (.cons hadded.attended ?_))
    exact (along_noted habsent).append (along_noted hcreated)
  · exact .single (.mark "2025-01-01T00:00:00Z" retained)

lemma conducted_retaining :
    Conducted (holdings default) "monitoring" "logs" retainingTrace ⟨some retired, ⟨true, false⟩⟩
      ⟨none, ⟨true, false⟩⟩ := by
  have hfound : Answers (holdings default) ⟨some retired, ⟨true, false⟩⟩ (.doesExist retired)
      (.ok true) ⟨some retired, ⟨true, false⟩⟩ := by
    refine ⟨rfl, rfl, ?_⟩
    rintro _ ⟨⟩
    rfl
  have hremoved : Answers (holdings default) ⟨some retired, ⟨true, false⟩⟩
      (.removeFinalizer retired) (.ok ()) ⟨none, ⟨true, false⟩⟩ := ⟨rfl, .inl rfl⟩
  refine ⟨?rest, none, ?_, Along.shared_of_attended ?_, .refl⟩
  rotate_left
  · repeat apply Program.After.answered
    exact .here _
  · refine .cons (Answers.attended rfl) ((along_begun rfl).append ?_)
    exact (along_noted hfound).append (.cons hremoved.attended (.nil _))

/-- A bucket is created, its record is marked, and then released. -/
def retainingChronicle : Chronicle (holdings default) "monitoring" "logs" where
  situation
    | 0 => ⟨some unseen, ⟨false, false⟩⟩
    | 1 => ⟨some retired, ⟨true, false⟩⟩
    | _ => ⟨none, ⟨true, false⟩⟩
  trace
    | 0 => creatingTrace
    | 1 => retainingTrace
    | _ => []
  next
    | 0 => conducted_creating
    | 1 => conducted_retaining
    | _ + 2 => ⟨_, none, .here _, .nil _, .refl⟩

/-- A provider that holds at most one bucket holds it under whatever name it is asked for. -/
lemma isFaithful_holdings {cluster : ClusterContext} :
    IsFaithful (holdings cluster) fun _ h => h.bucket = true where
  absent := by
    rintro b p p' ⟨-, hfound⟩ hp
    rw [← hfound false rfl] at hp
    cases hp
  asked := by
    rintro b p r p' n ⟨rfl, -⟩ hp
    exact hp
  kept := by
    rintro c b p r p' n hc (rfl | ⟨-, rfl⟩) hp
    · rcases hc with rfl | rfl
      · cases hp
      · exact hp
    · exact hp
  deleted := by
    rintro b p p' (rfl | ⟨h, -⟩) hp
    · cases hp
    · exact h rfl

/-- The created bucket outlives its record, as it is to be retained. -/
theorem retainingChronicle_relinquishes :
    (retainingChronicle.situation 2).provider.bucket = true ∧
      ∃ j < 2, retainingChronicle.Relinquishes j := by
  have hstart : Names "logs" (retainingChronicle.situation 0).record := by
    rintro _ ⟨⟩
    rfl
  refine ⟨rfl, ?_⟩
  have h := held_or_relinquished retainingChronicle isFaithful_holdings hstart Bool.false_ne_true
    (n := 2) rfl
  exact h.resolve_left not_isHeld_none

end BucketOperator.Reconcile
