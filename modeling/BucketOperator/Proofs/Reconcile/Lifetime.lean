import BucketOperator.Proofs.Kubernetes.FinalizerLists
import BucketOperator.Proofs.Reconcile.Phases

/-!
# The lifetime of a record

A record is reconciled again and again, each time by an invocation that may fail at any call or
stop after it, while its user may mark it for deletion at any moment.
-/

namespace BucketOperator.Reconcile

/-! ### The record -/

/-- Mark a record for deletion. One that no finalizer keeps is gone at once. -/
def marked (timestamp : String) (bucket : Bucket) : Option Bucket :=
  if bucket.isBeingDeleted then some bucket
  else if bucket.metadata.finalizers.isEmpty then none
  else some { bucket with metadata.deletionTimestamp := some timestamp }

/-- The record before and after a moment in which its user may have marked it. -/
inductive Marks : Option Bucket → Option Bucket → Prop where
  | unmarked (record : Option Bucket) : Marks record record
  | marked (timestamp : String) (bucket : Bucket) : Marks (some bucket) (marked timestamp bucket)

/-- Replace the finalizers of a record. One that is marked and kept by none is gone. -/
def withFinalizers (finalizers : List String) (bucket : Bucket) : Option Bucket :=
  if bucket.isBeingDeleted && finalizers.isEmpty then none
  else some { bucket with metadata.finalizerList := some finalizers }

/-- The record before and after an edit that may fail, with or without an effect. A record that is
gone cannot be edited. -/
def Edited (edit : Bucket → Option Bucket) (outcome : Except Failure Unit) :
    Option Bucket → Option Bucket → Prop
  | none, after => outcome ≠ .ok () ∧ after = none
  | some bucket, after => after = edit bucket ∨ outcome ≠ .ok () ∧ after = some bucket

/-- The record before and after its finalizers are to be replaced, if they are. -/
def Refinalized (finalizers : Option (List String)) (outcome : Except Failure Unit)
    (before after : Option Bucket) : Prop :=
  match finalizers with
  | some finalizers => Edited (withFinalizers finalizers) outcome before after
  | none => outcome = .ok () ∧ after = before

lemma hasFinalizer_iff_mem {bucket : Bucket} {finalizer : String} :
    bucket.hasFinalizer finalizer = true ↔ finalizer ∈ bucket.metadata.finalizers :=
  List.contains_iff_mem

/-! ### Record and provider -/

/-- The record in the control plane, and the state of the provider. -/
structure Situation (π : Type) where
  record : Option Bucket
  provider : π

/-- What the adapters of a cluster may answer, with the state of the provider afterwards. -/
structure Adapters (π : Type) where
  cluster : ClusterContext
  doesExist : Bucket → π → Except Failure Bool → π → Prop
  change : Change → Bucket → π → Except Failure Unit → π → Prop

section Collaboration

variable {π : Type} (adapters : Adapters π)

/-- What a collaborator may answer, with the situation afterwards. Finalizers are written as the
operator's copy of the record has them. -/
def Answers (s : Situation π) : (c : Call) → c.Answer → Situation π → Prop
  | .load .., r, s' => s' = s ∧ ∀ found, r = .ok found → found = s.record
  | .resolve, r, s' => s' = s ∧ ∀ cluster, r = .ok cluster → cluster = adapters.cluster
  | .services _, _, s' => s' = s
  | .addFinalizer bucket, r, s' =>
    s'.provider = s.provider ∧
      Refinalized (Kubernetes.withFinalizer? bucket.metadata.finalizers Bucket.finalizer) r
        s.record s'.record
  | .removeFinalizer bucket, r, s' =>
    s'.provider = s.provider ∧
      Refinalized (Kubernetes.withoutFinalizer? bucket.metadata.finalizers Bucket.finalizer) r
        s.record s'.record
  | .patchStatus _ status, r, s' =>
    s'.provider = s.provider ∧
      Edited (fun bucket => some { bucket with status := some status }) r s.record s'.record
  | .doesExist bucket, r, s' =>
    s'.record = s.record ∧ adapters.doesExist bucket s.provider r s'.provider
  | .change c bucket, r, s' =>
    s'.record = s.record ∧ adapters.change c bucket s.provider r s'.provider
  | .clock, _, s' => s' = s
  | .record _, _, s' => s' = s

/-- The collaborators of a record that may be marked before every answer. -/
def attended : Behaviour Collaborators (Situation π) := fun s c r s' =>
  ∃ record, Marks s.record record ∧ Answers adapters ⟨record, s.provider⟩ c r s'

/-- One invocation, which may stop after any call, takes a situation to another. -/
def Invocation (namespaceName name : String) (s s' : Situation π) : Prop :=
  ∃ t rest, (invoke namespaceName name).After t rest ∧ Along (attended adapters) s t s'

end Collaboration

/-- Invocations one after the other, each from where the one before it stopped. -/
structure History {π : Type} (invocation : Situation π → Situation π → Prop) where
  situation : Nat → Situation π
  next : ∀ n, invocation (situation n) (situation (n + 1))

/-- What a record says that is never changed: its specification, and its namespace. -/
def terms (bucket : Bucket) : BucketSpec × Option String :=
  (bucket.spec, bucket.metadata.namespaceName)

/-- There is a record, and it has the operator's finalizer. -/
def IsHeld (record : Option Bucket) : Prop :=
  ∃ bucket ∈ record, bucket.hasFinalizer Bucket.finalizer = true

/-- There is no record, or it is marked for deletion. -/
def IsDoomed (record : Option Bucket) : Prop :=
  ∀ bucket ∈ record, bucket.isBeingDeleted = true

/-! ### Marking -/

lemma marks_none {record : Option Bucket} (h : Marks none record) : record = none := by
  cases h
  rfl

lemma marked_of_isBeingDeleted {timestamp : String} {bucket : Bucket}
    (h : bucket.isBeingDeleted = true) : marked timestamp bucket = some bucket := by
  rw [marked, if_pos h]

lemma isBeingDeleted_of_marked {timestamp : String} {bucket bucket' : Bucket}
    (h : marked timestamp bucket = some bucket') : bucket'.isBeingDeleted = true := by
  unfold marked at h
  split at h
  · rename_i hb
    cases h
    exact hb
  · split at h
    · cases h
    · cases h
      rfl

/-- Marking a record twice is marking it once. -/
lemma Marks.trans {r₁ r₂ r₃ : Option Bucket} (h : Marks r₁ r₂) (h' : Marks r₂ r₃) :
    Marks r₁ r₃ := by
  cases h with
  | unmarked => exact h'
  | marked timestamp bucket =>
    generalize hm : Reconcile.marked timestamp bucket = r₂ at h'
    cases h' with
    | unmarked =>
      rw [← hm]
      exact .marked timestamp bucket
    | marked timestamp' bucket' =>
      rw [marked_of_isBeingDeleted (isBeingDeleted_of_marked hm), ← hm]
      exact .marked timestamp bucket

/-- A marked record is not changed by marking. -/
lemma marks_of_isBeingDeleted {bucket : Bucket} {record : Option Bucket}
    (hb : bucket.isBeingDeleted = true) (h : Marks (some bucket) record) :
    record = some bucket := by
  cases h with
  | unmarked => rfl
  | marked timestamp => exact marked_of_isBeingDeleted hb

/-- A record that is not marked was not marked before. -/
lemma eq_of_marks_alive {bucket : Bucket} {record : Option Bucket}
    (hb : bucket.isBeingDeleted = false) (h : Marks record (some bucket)) :
    record = some bucket := by
  generalize hm : some bucket = r at h
  cases h with
  | unmarked => rfl
  | marked timestamp bucket' =>
    rw [isBeingDeleted_of_marked hm.symm] at hb
    cases hb

/-- What marking does not change about a record that stays. -/
lemma marked_fields {timestamp : String} {bucket bucket' : Bucket}
    (h : marked timestamp bucket = some bucket') :
    terms bucket' = terms bucket ∧ bucket'.metadata.finalizers = bucket.metadata.finalizers := by
  unfold marked at h
  split at h
  · cases h
    exact ⟨rfl, rfl⟩
  · split at h
    · cases h
    · cases h
      exact ⟨rfl, rfl⟩

/-! ### Undisturbed runs -/

section Runs

variable {π : Type} {adapters : Adapters π} {s s' : Situation π}

lemma Answers.attended {c : Call} {r : c.Answer} (h : Answers adapters s c r s') :
    attended adapters s c r s' :=
  ⟨s.record, .unmarked _, h⟩

lemma along_begun {bucket : Bucket} (h : s.record = some bucket) :
    Along (attended adapters) s (begun bucket adapters.cluster) s := by
  refine .cons (Answers.attended ⟨rfl, ?_⟩) (.cons (Answers.attended ⟨rfl, ?_⟩)
    (.cons (Answers.attended rfl) (.nil s)))
  · rintro _ ⟨⟩
    exact h.symm
  · rintro _ ⟨⟩
    rfl

lemma along_noted {provider : CloudProvider} {c : Call} {r : c.Answer} {operation : String}
    {isOk : Bool} (h : Answers adapters s c r s') :
    Along (attended adapters) s (noted provider c r operation isOk) s' :=
  .cons (Answers.attended rfl) (.cons h.attended
    (.cons (Answers.attended rfl) (.cons (Answers.attended rfl) (.nil s'))))

/-- An invocation between notes. -/
lemma along_invocation {t : Trace Collaborators} {start now : Nat} {event : Metrics.Event}
    (h : Along (attended adapters) s t s') :
    Along (attended adapters) s
      (⟨.clock, start⟩ :: t ++ [⟨.clock, now⟩, ⟨.record event, ()⟩]) s' :=
  .cons (Answers.attended rfl)
    (h.append (.cons (Answers.attended rfl) (.cons (Answers.attended rfl) (.nil s'))))

end Runs

end BucketOperator.Reconcile
