import BucketOperator.Proofs.Reconcile.Lifetime
import BucketOperator.Proofs.Reconcile.Order

/-!
# What a ready status says

A status says that a bucket is ready only after an invocation in which every step at the provider
has succeeded, whatever others do to the record meanwhile. But no status is ever taken back: a
later invocation in which a step fails leaves it as it is. So what a status says is out of date
exactly when the last invocation to place the bucket has failed at a record that was ready.
-/

namespace BucketOperator.Reconcile

open Program (recorded)

/-! ### Invocations of a record that others edit -/

/-- Others do to a record what they like, but leave its status to the operator. -/
def KeepsStatus (before after : Option Bucket) : Prop :=
  ∀ b' ∈ after, ∃ b ∈ before, b'.status = b.status

section Invocations

variable {π : Type} (adapters : Adapters π)

/-- The collaborators of a record that others may edit before every answer. -/
def edited : Behaviour Collaborators (Situation π) := fun s c r s' =>
  ∃ record, KeepsStatus s.record record ∧ Answers adapters ⟨record, s.provider⟩ c r s'

/-- Invocations one after the other, each with the answers it got. Others may edit the record during
an invocation and after it, and an invocation may stop anywhere. -/
structure Course (namespaceName name : String) where
  situation : Nat → Situation π
  trace : Nat → Trace Collaborators
  next : ∀ n, ∃ rest s, (invoke namespaceName name).After (trace n) rest ∧
    Along (edited adapters) (situation n) (trace n) s ∧ s.provider = (situation (n + 1)).provider ∧
      KeepsStatus s.record (situation (n + 1)).record

end Invocations

/-- There is a record, and its status says that the bucket is ready. -/
def IsReady (record : Option Bucket) : Prop :=
  ∃ bucket ∈ record, ∃ status ∈ bucket.status, status.ready = true

/-- An invocation has read a record that is not marked, and is to place its bucket. -/
def IsPlacement (namespaceName name : String) (t : Trace Collaborators) : Prop :=
  ∃ bucket, Begun namespaceName name t bucket ∧ bucket.isBeingDeleted = false

/-- Every step at the provider has succeeded: the bucket was created or updated and configured, and
so was its role if one is requested. -/
def IsComplete (namespaceName name : String) (t : Trace Collaborators) : Prop :=
  ∃ bucket, Complete namespaceName name t bucket

/-- Of the invocations before the `n`th, the `k`th is the last that was to place the bucket. -/
structure Course.IsLastPlacement {π : Type} {adapters : Adapters π} {namespaceName name : String}
    (course : Course adapters namespaceName name) (k n : Nat) : Prop where
  before : k < n
  placement : IsPlacement namespaceName name (course.trace k)
  last : ∀ j, k < j → j < n → ¬ IsPlacement namespaceName name (course.trace j)

/-! ### What becomes of a status -/

variable {namespaceName name : String}

variable (namespaceName name) in
/-- A record comes from one with the same status, unless everything was complete before it was
given a ready one. -/
def Restated (t : Trace Collaborators) (before after : Option Bucket) : Prop :=
  ∀ b' ∈ after, ∃ b ∈ before, b'.status = b.status ∨
    IsReady (some b') ∧ IsComplete namespaceName name t

section Restating

variable {t t' : Trace Collaborators} {r r₁ r₂ r₃ : Option Bucket}

lemma KeepsStatus.restated (h : KeepsStatus r₁ r₂) : Restated namespaceName name t r₁ r₂ := by
  intro b' hb'
  obtain ⟨b, hb, hstatus⟩ := h b' hb'
  exact ⟨b, hb, .inl hstatus⟩

lemma KeepsStatus.refl (r : Option Bucket) : KeepsStatus r r := fun b hb => ⟨b, hb, rfl⟩

lemma Restated.refl (r : Option Bucket) : Restated namespaceName name t r r :=
  (KeepsStatus.refl r).restated

lemma isReady_congr {b b' : Bucket} (h : b'.status = b.status) :
    IsReady (some b') ↔ IsReady (some b) := by
  simp [IsReady, h]

lemma Restated.trans (h : Restated namespaceName name t r₁ r₂)
    (h' : Restated namespaceName name t r₂ r₃) : Restated namespaceName name t r₁ r₃ := by
  intro b₃ hb₃
  obtain ⟨b₂, hb₂, hstatus⟩ := h' b₃ hb₃
  obtain ⟨b₁, hb₁, hstatus'⟩ := h b₂ hb₂
  refine ⟨b₁, hb₁, ?_⟩
  rcases hstatus with hsame | hready
  · rcases hstatus' with hsame' | ⟨hready, hcomplete⟩
    · exact .inl (hsame.trans hsame')
    · exact .inr ⟨(isReady_congr hsame).2 hready, hcomplete⟩
  · exact .inr hready

lemma IsComplete.mono (h : IsComplete namespaceName name t) (ht : t ⊆ t') :
    IsComplete namespaceName name t' := by
  obtain ⟨bucket, hcomplete⟩ := h
  exact ⟨bucket, hcomplete.mono ht⟩

lemma Restated.mono (h : Restated namespaceName name t r₁ r₂) (ht : t ⊆ t') :
    Restated namespaceName name t' r₁ r₂ := by
  intro b' hb'
  obtain ⟨b, hb, hstatus⟩ := h b' hb'
  exact ⟨b, hb, hstatus.imp_right fun ⟨hready, hcomplete⟩ => ⟨hready, hcomplete.mono ht⟩⟩

/-- A record that is still there is ready if it was. -/
lemma Restated.isReady (h : Restated namespaceName name t r₁ r₂) (hready : IsReady r₁)
    (hrecord : r₂ ≠ none) : IsReady r₂ := by
  obtain ⟨b', rfl⟩ := Option.ne_none_iff_exists'.1 hrecord
  obtain ⟨b, hb, hstatus⟩ := h b' rfl
  rcases hstatus with hsame | ⟨hready, -⟩
  · cases hb
    exact (isReady_congr hsame).2 hready
  · exact hready

/-- A record becomes ready only once everything is complete. -/
lemma Restated.isComplete (h : Restated namespaceName name t r₁ r₂) (hready : IsReady r₂)
    (hunready : ¬ IsReady r₁) : IsComplete namespaceName name t := by
  obtain ⟨b', hb', hstatus⟩ := hready
  obtain ⟨b, hb, hsame | ⟨-, hcomplete⟩⟩ := h b' hb'
  · exact absurd ⟨b, hb, hsame ▸ hstatus⟩ hunready
  · exact hcomplete

lemma Restated.ne_none (h : Restated namespaceName name t r₁ r₂) (hrecord : r₂ ≠ none) :
    r₁ ≠ none := by
  obtain ⟨b', rfl⟩ := Option.ne_none_iff_exists'.1 hrecord
  obtain ⟨b, hb, -⟩ := h b' rfl
  rintro rfl
  cases hb

end Restating

/-! ### What an invocation does to the status -/

section Calls

variable {π : Type} {adapters : Adapters π} {s s' : Situation π} {t : Trace Collaborators}

lemma Refinalized.keepsStatus {finalizers : Option (List String)} {outcome : Except Failure Unit}
    {before after : Option Bucket} (h : Refinalized finalizers outcome before after) :
    KeepsStatus before after := by
  unfold Refinalized at h
  split at h
  · cases before with
    | none =>
      obtain ⟨_, rfl⟩ := h
      exact .refl none
    | some b =>
      rcases h with rfl | ⟨_, rfl⟩
      · intro b' hb'
        refine ⟨b, rfl, ?_⟩
        unfold withFinalizers at hb'
        split at hb'
        · cases hb'
        · cases hb'
          rfl
      · exact .refl _
  · obtain ⟨_, rfl⟩ := h
    exact .refl _

/-- A status is written on its grounds, and then it is ready. -/
lemma restated_of_edited {c : Call} {r : c.Answer} (h : edited adapters s c r s')
    (hc : Grounds namespaceName name t c) : Restated namespaceName name t s.record s'.record := by
  obtain ⟨record, hkept, hanswer⟩ := h
  refine hkept.restated.trans ?_
  have hsame (h : s'.record = record) : Restated namespaceName name t record s'.record := by
    rw [h]
    exact .refl record
  cases c with
  | load n m => exact hsame (congrArg Situation.record hanswer.1)
  | resolve => exact hsame (congrArg Situation.record hanswer.1)
  | services cluster => exact hsame (congrArg Situation.record hanswer)
  | addFinalizer bucket => exact hanswer.2.keepsStatus.restated
  | removeFinalizer bucket => exact hanswer.2.keepsStatus.restated
  | patchStatus bucket status =>
    obtain ⟨hcomplete, rfl, -⟩ := hc
    obtain ⟨-, hedit⟩ := hanswer
    cases record with
    | none =>
      obtain ⟨_, hgone⟩ := hedit
      exact hsame hgone
    | some b =>
      rcases hedit with hedit | ⟨_, hunchanged⟩
      · rw [hedit]
        rintro b' ⟨⟩
        exact ⟨b, rfl, .inr ⟨⟨_, rfl, _, rfl, rfl⟩, bucket, hcomplete⟩⟩
      · exact hsame hunchanged
  | doesExist bucket => exact hsame hanswer.1
  | change c bucket => exact hsame hanswer.1
  | clock => exact hsame (congrArg Situation.record hanswer)
  | record event => exact hsame (congrArg Situation.record hanswer)

/-- All that a program does to a record whose calls are made on their grounds. -/
lemma restated_along {α : Type} {p q : Program Collaborators α} {u : Trace Collaborators}
    {ends : Trace Collaborators → Option α → Prop}
    (h : p.Ensures (recorded Collaborators) (Licensed namespaceName name) ends u)
    (hp : p.After t q) (ht : Along (edited adapters) s t s') :
    Restated namespaceName name (u ++ t) s.record s'.record := by
  induction hp generalizing s u with
  | here p =>
    cases ht
    exact .refl _
  | @answered c next r t q hq ih =>
    cases ht with
    | cons hanswer rest =>
      obtain ⟨hc, hnext⟩ := h
      have hstep := (restated_of_edited hanswer hc.2).mono (List.subset_append_left u (⟨c, r⟩ :: t))
      have hrest := ih (hnext r _ rfl) rest
      rw [List.append_assoc, List.singleton_append] at hrest
      exact hstep.trans hrest

lemma licensed_invoke : (invoke namespaceName name).Ensures (recorded Collaborators)
    (Licensed namespaceName name) (fun _ _ => True) [] := by
  have hquiet (P : Trace Collaborators → Prop)
      (hP : ∀ t c r, P t → c.isNote = true → P (t ++ [⟨c, r⟩])) :
      Quiet (recorded Collaborators) (Licensed namespaceName name) P := quiet_extension hP
  refine ensures_invoke (A := Unfailed) (fun _ he => nomatch he) (hquiet _ ?_) ?_
  · intro t c r ht hc
    exact unfailed_append.2 ⟨ht, failure?_of_isNote hc r⟩
  · intro t ht
    refine (lawful_reconcile_from ht).mono (fun _ _ h => h) ?_
    rintro t (_ | outcome) _
    · trivial
    · exact ⟨fun _ => True, trivial, hquiet _ fun _ _ _ _ _ => trivial, fun _ _ => trivial⟩

end Calls

/-! ### Runs of invocations -/

namespace Course

variable {π : Type} {adapters : Adapters π} (course : Course adapters namespaceName name)
  {k m n : Nat}

lemma restated (n : Nat) : Restated namespaceName name (course.trace n)
    (course.situation n).record (course.situation (n + 1)).record := by
  obtain ⟨rest, s, hafter, halong, -, hkept⟩ := course.next n
  have h := restated_along licensed_invoke hafter halong
  rw [List.nil_append] at h
  exact h.trans hkept.restated

lemma ne_none (h : m ≤ n) (hrecord : (course.situation n).record ≠ none) :
    (course.situation m).record ≠ none := by
  induction h with
  | refl => exact hrecord
  | @step n _ ih => exact ih ((course.restated n).ne_none hrecord)

/-- A record that is ready stays so as long as it is there. -/
lemma isReady_of_le (h : m ≤ n) (hready : IsReady (course.situation m).record)
    (hrecord : (course.situation n).record ≠ none) : IsReady (course.situation n).record := by
  induction h with
  | refl => exact hready
  | @step n hn ih =>
    have hrecord' : (course.situation n).record ≠ none := (course.restated n).ne_none hrecord
    exact (course.restated n).isReady (ih hrecord') hrecord

/-- Between a time when a record was not ready and one when it is, everything was complete. -/
lemma exists_isComplete (h : m ≤ n) (hunready : ¬ IsReady (course.situation m).record)
    (hready : IsReady (course.situation n).record) :
    ∃ j, m ≤ j ∧ j < n ∧ IsComplete namespaceName name (course.trace j) := by
  induction h with
  | refl => exact absurd hready hunready
  | @step n hn ih =>
    by_cases hbefore : IsReady (course.situation n).record
    · obtain ⟨j, hm, hj, hcomplete⟩ := ih hbefore
      exact ⟨j, hm, Nat.lt_succ_of_lt hj, hcomplete⟩
    · exact ⟨n, hn, Nat.lt_succ_self n, (course.restated n).isComplete hready hbefore⟩

end Course

lemma IsComplete.isPlacement {t : Trace Collaborators} (h : IsComplete namespaceName name t) :
    IsPlacement namespaceName name t := by
  obtain ⟨bucket, hcomplete⟩ := h
  exact ⟨bucket, hcomplete.toBegun, hcomplete.alive⟩

/-- Whatever calls fail, wherever invocations stop, and whatever others do to the record meanwhile:
a ready status says that the last invocation to place the bucket was complete exactly if that
invocation did not begin with a ready record and fail, the record being there still. -/
theorem ready_iff_last_placement_complete {π : Type} {adapters : Adapters π}
    (course : Course adapters namespaceName name) (n : Nat) :
    (IsReady (course.situation n).record → ∀ k, course.IsLastPlacement k n →
      IsComplete namespaceName name (course.trace k)) ↔
    ∀ k, course.IsLastPlacement k n → (course.situation n).record ≠ none →
      IsReady (course.situation k).record → IsComplete namespaceName name (course.trace k) := by
  constructor
  · intro h k hk hrecord hready
    exact h (course.isReady_of_le (Nat.le_of_lt hk.before) hready hrecord) k hk
  · intro h hready k hk
    by_cases hbefore : IsReady (course.situation k).record
    · refine h k hk ?_ hbefore
      obtain ⟨bucket, hbucket, -⟩ := hready
      rw [hbucket]
      exact Option.some_ne_none bucket
    · -- The record has become ready since, and no invocation after the last placement did that.
      obtain ⟨j, hkj, hjn, hcomplete⟩ :=
        course.exists_isComplete (Nat.le_of_lt hk.before) hbefore hready
      rcases Nat.eq_or_lt_of_le hkj with rfl | hlt
      · exact hcomplete
      · exact absurd hcomplete.isPlacement (hk.last j hlt hjn)

/-! ### A status that is out of date -/

/-- Adapters that may answer anything. -/
def arbitrary : Adapters Unit where
  cluster := default
  doesExist _ _ _ _ := True
  change _ _ _ _ _ := True

/-- A record of a bucket without a role, with the operator's finalizer. -/
def plain : Bucket where
  metadata :=
    { name := some "logs"
      generateName := none
      namespaceName := some "monitoring"
      finalizerList := some [Bucket.finalizer]
      deletionTimestamp := none }
  spec := ⟨"logs", none, .retain, none, []⟩
  status := none

/-- The record once its bucket is in place. -/
def settled : Bucket := { plain with status := some plain.readyStatus }

/-- A step at the provider fails. -/
def outage : Failure := .provider "logs" "configure bucket" (.azure .transport)

/-- The bucket is there, and is updated and configured. -/
def settlingTrace : Trace Collaborators :=
  ⟨.clock, (0 : Nat)⟩ :: (begun plain default ++
    (⟨.addFinalizer plain, .ok ()⟩ ::
      (noted .aws (.doesExist plain) (.ok true) "exists_bucket" true ++
        (noted .aws (.change .updateBucket plain) (.ok ()) "update_bucket" true ++
          (noted .aws (.change .configureBucket plain) (.ok ()) "configure_bucket" true ++
            [⟨.patchStatus plain plain.readyStatus, .ok ()⟩]))))) ++
    [⟨.clock, (0 : Nat)⟩, ⟨.record (.reconciled 0), ()⟩]

/-- The bucket is there and is updated, but not configured. -/
def failingTrace : Trace Collaborators :=
  ⟨.clock, (0 : Nat)⟩ :: (begun settled default ++
    (⟨.addFinalizer settled, .ok ()⟩ ::
      (noted .aws (.doesExist settled) (.ok true) "exists_bucket" true ++
        (noted .aws (.change .updateBucket settled) (.ok ()) "update_bucket" true ++
          noted .aws (.change .configureBucket settled) (.error outage)
            "configure_bucket" false)))) ++
    [⟨.clock, (0 : Nat)⟩, ⟨.record (.reconcileFailed outage.reason 0), ()⟩]

lemma yields_settlingTrace :
    (invoke "monitoring" "logs").Yields settlingTrace (.ok .ready) := by
  repeat apply Program.After.answered
  exact .here _

lemma yields_failingTrace :
    (invoke "monitoring" "logs").Yields failingTrace (.error outage) := by
  repeat apply Program.After.answered
  exact .here _

lemma Marks.keepsStatus {before after : Option Bucket} (h : Marks before after) :
    KeepsStatus before after := by
  cases h with
  | unmarked => exact .refl before
  | marked timestamp bucket =>
    intro b' hb'
    refine ⟨bucket, rfl, ?_⟩
    unfold Reconcile.marked at hb'
    split at hb'
    · cases hb'
      rfl
    · split at hb'
      · cases hb'
      · cases hb'
        rfl

lemma along_edited_of_attended {π : Type} {adapters : Adapters π} {s s' : Situation π}
    {t : Trace Collaborators} (h : Along (attended adapters) s t s') :
    Along (edited adapters) s t s' := by
  refine h.mono ?_
  rintro s c r s' ⟨record, hm, hr⟩
  exact ⟨record, hm.keepsStatus, hr⟩

lemma arbitrarily_doesExist (s : Situation Unit) (bucket : Bucket) (r : Except Failure Bool) :
    Answers arbitrary s (.doesExist bucket) r s := ⟨rfl, trivial⟩

lemma arbitrarily_change (s : Situation Unit) (c : Change) (bucket : Bucket)
    (r : Except Failure Unit) : Answers arbitrary s (.change c bucket) r s := ⟨rfl, trivial⟩

lemma along_settlingTrace :
    Along (edited arbitrary) ⟨some plain, ()⟩ settlingTrace ⟨some settled, ()⟩ := by
  have hkept : Answers arbitrary ⟨some plain, ()⟩ (.addFinalizer plain) (.ok ())
      ⟨some plain, ()⟩ := ⟨rfl, rfl, rfl⟩
  have hwritten : Answers arbitrary ⟨some plain, ()⟩ (.patchStatus plain plain.readyStatus)
      (.ok ()) ⟨some settled, ()⟩ := ⟨rfl, .inl rfl⟩
  refine along_edited_of_attended
    (along_invocation ((along_begun rfl).append (.cons hkept.attended ?_)))
  exact (along_noted (arbitrarily_doesExist ..)).append
    ((along_noted (arbitrarily_change ..)).append
      ((along_noted (arbitrarily_change ..)).append (.cons hwritten.attended (.nil _))))

lemma along_failingTrace :
    Along (edited arbitrary) ⟨some settled, ()⟩ failingTrace ⟨some settled, ()⟩ := by
  have hkept : Answers arbitrary ⟨some settled, ()⟩ (.addFinalizer settled) (.ok ())
      ⟨some settled, ()⟩ := ⟨rfl, rfl, rfl⟩
  refine along_edited_of_attended
    (along_invocation ((along_begun rfl).append (.cons hkept.attended ?_)))
  exact (along_noted (arbitrarily_doesExist ..)).append
    ((along_noted (arbitrarily_change ..)).append (along_noted (arbitrarily_change ..)))

/-- Where the bucket is configured, that fails. -/
lemma configure_fails_in_failingTrace (bucket : Bucket) :
    ⟨.change .configureBucket bucket, .ok ()⟩ ∉ failingTrace := by
  have hfails : ∀ e ∈ failingTrace, ∀ bucket, e.call = .change .configureBucket bucket →
      e.call.failure? e.answer ≠ none := by
    simp [failingTrace, begun, noted, Call.failure?, failureIn?]
  intro h
  exact hfails _ h bucket rfl rfl

/-- The bucket is put in place, and from then on it cannot be configured any more. -/
def failingCourse : Course arbitrary "monitoring" "logs" where
  situation
    | 0 => ⟨some plain, ()⟩
    | _ + 1 => ⟨some settled, ()⟩
  trace
    | 0 => settlingTrace
    | _ + 1 => failingTrace
  next
    | 0 => ⟨_, _, yields_settlingTrace, along_settlingTrace, rfl, .refl _⟩
    | _ + 1 => ⟨_, _, yields_failingTrace, along_failingTrace, rfl, .refl _⟩

/-- A status stays ready while the last invocation to place the bucket has failed to configure
it. -/
theorem ready_after_failure : ∃ course : Course arbitrary "monitoring" "logs",
    (∀ n, ∃ outcome, (invoke "monitoring" "logs").Yields (course.trace n) outcome) ∧
      course.IsLastPlacement 1 2 ∧ IsReady (course.situation 2).record ∧
        ¬ IsComplete "monitoring" "logs" (course.trace 1) := by
  refine ⟨failingCourse, ?_, ⟨by decide, ?_, ?_⟩, ?_, ?_⟩
  · rintro (_ | n)
    · exact ⟨_, yields_settlingTrace⟩
    · exact ⟨_, yields_failingTrace⟩
  · refine ⟨settled, ⟨?_, default, ?_, ?_⟩, rfl⟩ <;>
    · show _ ∈ failingTrace
      simp [failingTrace, begun]
  · omega
  · exact ⟨_, rfl, _, rfl, rfl⟩
  · rintro ⟨bucket, hcomplete⟩
    exact configure_fails_in_failingTrace bucket hcomplete.configured

end BucketOperator.Reconcile
