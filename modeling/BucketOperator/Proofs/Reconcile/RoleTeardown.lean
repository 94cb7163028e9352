import BucketOperator.Proofs.Reconcile.Stages

/-!
# The teardown of access roles

A release that finds no bucket deletes nothing, not even the role. So a role outlives the record's
finalizer if an invocation stopped, or failed, after the bucket was deleted and before the role
was. That is the only way in which it can.
-/

namespace BucketOperator.Reconcile

/-! ### The provider -/

/-- Which parts of a bucket a provider has. -/
structure Holdings where
  bucket : Bool
  role : Bool
  deriving DecidableEq, Repr

/-- What a provider has after a change. -/
def Holdings.after (h : Holdings) : Change → Holdings
  | .createBucket => { h with bucket := true }
  | .updateBucket => { h with bucket := true }
  | .deleteBucket => { h with bucket := false }
  | .configureBucket => h
  | .configureRole => { h with role := true }
  | .deleteRole => { h with role := false }

/-- Adapters that answer truly whether the bucket exists, and whose changes may fail with or
without an effect. -/
def holdings (cluster : ClusterContext) : Adapters Holdings where
  cluster
  doesExist _ p r p' := p' = p ∧ ∀ found, r = .ok found → found = p.bucket
  change c _ p r p' := p' = p.after c ∨ r ≠ .ok () ∧ p' = p

/-- What a provider has between the deletion of a bucket and that of its role. -/
def stranded : Holdings := ⟨false, true⟩

/-- A record, if there is one, asks for a role and for the deletion of everything. -/
def WantsTeardown (record : Option Bucket) : Prop :=
  ∀ b ∈ record, b.spec.reclaimPolicy = .delete ∧ b.spec.requestedRole.isSome

/-! ### What a stage does to the provider -/

section Stages

variable {cluster : ClusterContext} {bucket : Bucket} {p p' : Holdings}

/-- Putting a bucket in place deletes nothing. -/
lemma Building.keeps_bucket (h : Building (holdings cluster) bucket p p') (hp : p.bucket = true) :
    p'.bucket = true := by
  induction h with
  | idle => exact hp
  | asked _ hr ih =>
    obtain ⟨rfl, -⟩ := hr
    exact ih
  | @changed p' p'' r c h hbucket hrole hr ih =>
    rcases hr with rfl | ⟨-, rfl⟩
    · cases c with
      | deleteBucket => exact absurd rfl hbucket
      | deleteRole => exact absurd rfl hrole
      | createBucket => rfl
      | updateBucket => rfl
      | configureBucket => exact ih
      | configureRole => exact ih
    · exact ih

/-- A release that finds no bucket does nothing. -/
lemma Razing.eq_of_absent (h : Razing (holdings cluster) bucket p p') (hp : p.bucket = false) :
    p' = p := by
  cases h with
  | idle => rfl
  | asked hr => exact hr.1
  | bucket hfound =>
    rw [← hfound.2 true rfl] at hp
    cases hp
  | role hfound =>
    rw [← hfound.2 true rfl] at hp
    cases hp

/-- When the finalizer is removed the bucket is gone, and the role is unless there was no bucket. -/
lemma Razed.eq (h : Razed (holdings cluster) bucket p p')
    (hpolicy : bucket.spec.reclaimPolicy = .delete) (hrole : bucket.spec.requestedRole.isSome) :
    p' = ⟨false, !p.bucket && p.role⟩ := by
  cases h with
  | kept hfound hkeep =>
    rename_i found
    obtain ⟨rfl, hfound⟩ := hfound
    have hf : p'.bucket = false := by
      rw [← hfound found rfl]
      cases found with
      | false => rfl
      | true => exact absurd hpolicy (hkeep rfl)
    rw [hf, Bool.not_false, Bool.true_and, ← hf]
  | bucket _ _ _ hnone => exact absurd hrole hnone
  | role hfound _ hbucket _ hr =>
    obtain ⟨rfl, hfound⟩ := hfound
    rcases hbucket with rfl | ⟨h, _⟩
    · rcases hr with rfl | ⟨h, _⟩
      · rw [← hfound true rfl]
        rfl
      · exact absurd rfl h
    · exact absurd rfl h

end Stages

/-! ### Histories -/

section Histories

variable {cluster : ClusterContext} {namespaceName name : String} {s s' : Situation Holdings}

/-- What is known of every situation: the record asks for a teardown, and without a bucket it is
marked or gone. -/
structure Tracked (s : Situation Holdings) : Prop where
  wants : WantsTeardown s.record
  doomed : s.provider.bucket = false → IsDoomed s.record

lemma Tracked.next (h : Tracked s) (hstage : Stage (holdings cluster) s s') : Tracked s' := by
  refine ⟨hstage.terms
    (P := fun terms => terms.1.reclaimPolicy = .delete ∧ terms.1.requestedRole.isSome) h.wants, ?_⟩
  intro hbucket
  by_cases hs : IsDoomed s.record
  · exact (hstage.doomed hs).1
  -- An unmarked record that keeps its bucket is not being released.
  · have hpresent : s.provider.bucket = true := by
      rw [← Bool.not_eq_false]
      exact fun hb => hs (h.doomed hb)
    cases hstage with
    | waiting _ hp =>
      rw [hp, hpresent] at hbucket
      cases hbucket
    | building _ _ _ _ hp =>
      rw [hp.keeps_bucket hpresent] at hbucket
      cases hbucket
    | razing bucket _ marked hr _ =>
      rw [hr]
      exact isDoomed_some.2 marked
    | razed bucket _ marked hr _ =>
      rw [hr]
      exact isDoomed_unfinalized marked

/-- Without a bucket nothing changes at the provider any more. -/
lemma Tracked.settled (h : Tracked s) (hstage : Stage (holdings cluster) s s')
    (hbucket : s.provider.bucket = false) : s'.provider = s.provider := by
  obtain ⟨-, hp | ⟨bucket, -, hp⟩⟩ := hstage.doomed (h.doomed hbucket)
  · exact hp
  · exact hp.eq_of_absent hbucket

/-- The invocation that removes the finalizer leaves no bucket, and a role only if it found no
bucket beside it. -/
lemma Tracked.released (h : Tracked s) (hstage : Stage (holdings cluster) s s')
    (hheld : IsHeld s.record) (hreleased : ¬ IsHeld s'.record) :
    s'.provider = ⟨false, !s.provider.bucket && s.provider.role⟩ := by
  rcases hstage.held hheld with hheld' | ⟨bucket, hread, -, -, hp⟩
  · exact absurd hheld' hreleased
  · have hwants : WantsTeardown (some bucket) := by
      have hwaiting : Stage (holdings cluster) s ⟨some bucket, s.provider⟩ := .waiting hread rfl
      exact (h.next hwaiting).wants
    obtain ⟨hpolicy, hrole⟩ := hwants bucket rfl
    exact hp.eq hpolicy hrole

variable (history : History (Invocation (holdings cluster) namespaceName name))

lemma History.tracked (hstart : Tracked (history.situation 0)) (n : Nat) :
    Tracked (history.situation n) := by
  induction n with
  | zero => exact hstart
  | succ n ih => exact ih.next (history.next n).stage

/-- A role that was stranded stays so. -/
lemma History.stranded_of_le (hstart : Tracked (history.situation 0)) {j n : Nat} (hjn : j ≤ n)
    (hj : (history.situation j).provider = stranded) :
    (history.situation n).provider = stranded := by
  induction hjn with
  | refl => exact hj
  | @step n _ ih =>
    have hbucket : (history.situation n).provider.bucket = false := by rw [ih]; rfl
    rw [(history.tracked hstart n).settled (history.next n).stage hbucket]
    exact ih

/-- Once the finalizer is gone, so is everything, if no role was stranded before. -/
lemma History.gone_of_released (hstart : Tracked (history.situation 0)) {i n : Nat} (hin : i ≤ n)
    (hheld : IsHeld (history.situation i).record)
    (hnever : ∀ j ≤ n, IsHeld (history.situation j).record →
      (history.situation j).provider ≠ stranded) :
    IsHeld (history.situation n).record ∨ (history.situation n).provider = ⟨false, false⟩ := by
  induction hin with
  | refl => exact .inl hheld
  | @step n _ ih =>
    have htracked := history.tracked hstart n
    have hstage := (history.next n).stage
    rcases Classical.em (IsHeld (history.situation (n + 1)).record) with hnext | hnext
    · exact .inl hnext
    right
    by_cases hn : IsHeld (history.situation n).record
    · rw [htracked.released hstage hn hnext]
      have hne := hnever n (Nat.le_succ n) hn
      rcases hp : (history.situation n).provider with ⟨_ | _, _ | _⟩
      · rfl
      · exact absurd hp hne
      · rfl
      · rfl
    · have hgone : (history.situation n).provider = ⟨false, false⟩ := by
        rcases ih (fun j hj => hnever j (Nat.le_succ_of_le hj)) with h | h
        · exact absurd h hn
        · exact h
      have hbucket : (history.situation n).provider.bucket = false := by rw [hgone]
      rw [htracked.settled hstage hbucket]
      exact hgone

/-- Once the finalizer has been removed the role is gone exactly if no invocation left it without
its bucket while the finalizer was there. -/
theorem role_gone_iff_never_stranded
    (hstart : (history.situation 0).provider = ⟨true, true⟩)
    (hwants : WantsTeardown (history.situation 0).record) {i n : Nat} (hin : i ≤ n)
    (hheld : IsHeld (history.situation i).record)
    (hreleased : ¬ IsHeld (history.situation n).record) :
    (history.situation n).provider.role = false ↔
      ∀ j ≤ n, IsHeld (history.situation j).record →
        (history.situation j).provider ≠ stranded := by
  have htracked : Tracked (history.situation 0) := by
    refine ⟨hwants, ?_⟩
    intro hbucket
    rw [hstart] at hbucket
    cases hbucket
  constructor
  · intro hrole j hj _ hstranded
    rw [history.stranded_of_le htracked hj hstranded] at hrole
    cases hrole
  · intro hnever
    rcases history.gone_of_released htracked hin hheld hnever with h | h
    · exact absurd h hreleased
    · rw [h]

end Histories

/-! ### A role that is left behind -/

/-- How deleting a role may fail. -/
def refused : Failure := .provider "logs" "delete role" (.aws .dispatch)

/-- A release in which the role cannot be deleted. -/
def strandingTrace : Trace Collaborators :=
  ⟨.clock, (0 : Nat)⟩ :: (begun doomed default ++
    (noted .aws (.doesExist doomed) (.ok true) "exists_bucket" true ++
      (noted .aws (.change .deleteBucket doomed) (.ok ()) "delete_bucket" true ++
        (⟨.record (.bucketDeleted "logs"), ()⟩ ::
          noted .aws (.change .deleteRole doomed) (.error refused) "delete_role" false)))) ++
    [⟨.clock, (0 : Nat)⟩, ⟨.record (.reconcileFailed refused.reason 0), ()⟩]

/-- A release that finds no bucket. -/
def forgettingTrace : Trace Collaborators :=
  ⟨.clock, (0 : Nat)⟩ :: (begun doomed default ++
    (noted .aws (.doesExist doomed) (.ok false) "exists_bucket" true ++
      [⟨.removeFinalizer doomed, .ok ()⟩])) ++
    [⟨.clock, (0 : Nat)⟩, ⟨.record (.reconciled 0), ()⟩]

lemma answers_doesExist {h : Holdings} {found : Bool} (hfound : found = h.bucket) :
    Answers (holdings default) ⟨some doomed, h⟩ (.doesExist doomed) (.ok found)
      ⟨some doomed, h⟩ := by
  refine ⟨rfl, rfl, ?_⟩
  rintro _ ⟨⟩
  exact hfound

lemma stranding_invocation :
    Invocation (holdings default) "monitoring" "logs" ⟨some doomed, ⟨true, true⟩⟩
      ⟨some doomed, stranded⟩ := by
  have hdeleted : Answers (holdings default) ⟨some doomed, ⟨true, true⟩⟩
      (.change .deleteBucket doomed) (.ok ()) ⟨some doomed, stranded⟩ := ⟨rfl, .inl rfl⟩
  have hrefused : Answers (holdings default) ⟨some doomed, stranded⟩
      (.change .deleteRole doomed) (.error refused) ⟨some doomed, stranded⟩ :=
    ⟨rfl, .inr ⟨nofun, rfl⟩⟩
  refine ⟨strandingTrace, .done (.error refused), ?_, along_invocation ?_⟩
  · repeat apply Program.After.answered
    exact .here _
  · exact (along_begun rfl).append ((along_noted (answers_doesExist rfl)).append
      ((along_noted hdeleted).append (.cons (Answers.attended rfl) (along_noted hrefused))))

lemma forgetting_invocation :
    Invocation (holdings default) "monitoring" "logs" ⟨some doomed, stranded⟩
      ⟨none, stranded⟩ := by
  have hremoved : Answers (holdings default) ⟨some doomed, stranded⟩
      (.removeFinalizer doomed) (.ok ()) ⟨none, stranded⟩ := ⟨rfl, .inl rfl⟩
  refine ⟨forgettingTrace, .done (.ok .released), ?_, along_invocation ?_⟩
  · repeat apply Program.After.answered
    exact .here _
  · exact (along_begun rfl).append ((along_noted (answers_doesExist rfl)).append
      (.cons hremoved.attended (.nil _)))

/-- Deleting the role fails once, and the retry finds no bucket. -/
def forgetfulHistory : History (Invocation (holdings default) "monitoring" "logs") where
  situation
    | 0 => ⟨some doomed, ⟨true, true⟩⟩
    | 1 => ⟨some doomed, stranded⟩
    | _ => ⟨none, stranded⟩
  next
    | 0 => stranding_invocation
    | 1 => forgetting_invocation
    | _ + 2 => ⟨[], _, .here _, .nil _⟩

lemma wantsTeardown_doomed : WantsTeardown (some doomed) := by
  rintro _ ⟨⟩
  exact ⟨rfl, by decide⟩

lemma isHeld_doomed : IsHeld (some doomed) := isHeld_some.2 (by decide)

/-- A failed deletion of a role is not always repeated before the finalizer is removed. -/
theorem role_left_behind :
    ¬ ∀ (history : History (Invocation (holdings default) "monitoring" "logs")) (i n : Nat),
      (history.situation 0).provider = ⟨true, true⟩ →
      WantsTeardown (history.situation 0).record → i ≤ n →
      IsHeld (history.situation i).record → ¬ IsHeld (history.situation n).record →
      (history.situation n).provider.role = false := by
  intro h
  have hrole := h forgetfulHistory 0 2 rfl wantsTeardown_doomed (Nat.zero_le 2) isHeld_doomed
    not_isHeld_none
  cases hrole

theorem forgetfulHistory_stranded :
    ((forgetfulHistory.situation 2).provider.role = false ↔
      ∀ j ≤ 2, IsHeld (forgetfulHistory.situation j).record →
        (forgetfulHistory.situation j).provider ≠ stranded) :=
  role_gone_iff_never_stranded forgetfulHistory rfl wantsTeardown_doomed (Nat.zero_le 2)
    isHeld_doomed not_isHeld_none

end BucketOperator.Reconcile
