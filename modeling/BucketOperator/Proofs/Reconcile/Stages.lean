import BucketOperator.Proofs.Reconcile.Lifetime

/-!
# The stages of an invocation

What one invocation can have made of the record and of the provider, wherever it stands, falls
into four stages: it waits for the record, puts the bucket in place, tears it down, or has torn it
down and removed the finalizer. What the provider does is left to the adapters.
-/

namespace BucketOperator.Reconcile

open Program (StepsBefore ensures_steps_bind)

section Stages

variable {π : Type} (adapters : Adapters π) (bucket : Bucket)

/-- A record that is read unmarked keeps its finalizer and its terms. -/
structure Kept (record : Option Bucket) : Prop where
  terms : ∀ b ∈ record, terms b = terms bucket
  finalizer : bucket.hasFinalizer Bucket.finalizer = true →
    ∃ b ∈ record, b.hasFinalizer Bucket.finalizer = true

/-- What putting a bucket in place may do at the provider. -/
inductive Building : π → π → Prop where
  | idle (p : π) : Building p p
  | asked {p p' p'' : π} {r : Except Failure Bool} (h : Building p p')
      (hr : adapters.doesExist bucket p' r p'') : Building p p''
  | changed {p p' p'' : π} {r : Except Failure Unit} {c : Change} (h : Building p p')
      (hbucket : c ≠ .deleteBucket) (hrole : c ≠ .deleteRole)
      (hr : adapters.change c bucket p' r p'') : Building p p''

/-- What a release may have done at the provider before the finalizer is removed. -/
inductive Razing : π → π → Prop where
  | idle (p : π) : Razing p p
  | asked {p p' : π} {r : Except Failure Bool} (hr : adapters.doesExist bucket p r p') :
      Razing p p'
  | bucket {p p₁ p' : π} {r : Except Failure Unit}
      (hfound : adapters.doesExist bucket p (.ok true) p₁)
      (hpolicy : bucket.spec.reclaimPolicy = .delete)
      (hr : adapters.change .deleteBucket bucket p₁ r p') : Razing p p'
  | role {p p₁ p₂ p' : π} {r : Except Failure Unit}
      (hfound : adapters.doesExist bucket p (.ok true) p₁)
      (hpolicy : bucket.spec.reclaimPolicy = .delete)
      (hbucket : adapters.change .deleteBucket bucket p₁ (.ok ()) p₂)
      (hrole : bucket.spec.requestedRole.isSome)
      (hr : adapters.change .deleteRole bucket p₂ r p') : Razing p p'

/-- What a release has done at the provider when the finalizer is removed. -/
inductive Razed : π → π → Prop where
  | kept {p p' : π} {found : Bool} (hfound : adapters.doesExist bucket p (.ok found) p')
      (hkeep : found = true → bucket.spec.reclaimPolicy ≠ .delete) : Razed p p'
  | bucket {p p₁ p' : π} (hfound : adapters.doesExist bucket p (.ok true) p₁)
      (hpolicy : bucket.spec.reclaimPolicy = .delete)
      (hbucket : adapters.change .deleteBucket bucket p₁ (.ok ()) p')
      (hrole : ¬ bucket.spec.requestedRole.isSome) : Razed p p'
  | role {p p₁ p₂ p' : π} (hfound : adapters.doesExist bucket p (.ok true) p₁)
      (hpolicy : bucket.spec.reclaimPolicy = .delete)
      (hbucket : adapters.change .deleteBucket bucket p₁ (.ok ()) p₂)
      (hrole : bucket.spec.requestedRole.isSome)
      (hr : adapters.change .deleteRole bucket p₂ (.ok ()) p') : Razed p p'

/-- A record without the operator's finalizer, if it had it. -/
def unfinalized : Option Bucket :=
  match Kubernetes.withoutFinalizer? bucket.metadata.finalizers Bucket.finalizer with
  | some finalizers => withFinalizers finalizers bucket
  | none => some bucket

/-- What an invocation has made of a situation, wherever it stands. -/
inductive Stage (s s' : Situation π) : Prop where
  /-- It has not read the record, or has found none. -/
  | waiting (hrecord : Marks s.record s'.record) (hprovider : s'.provider = s.provider)
  /-- It has read an unmarked record and is putting the bucket in place. -/
  | building (bucket : Bucket) (hread : Marks s.record (some bucket))
      (alive : bucket.isBeingDeleted = false) (hrecord : Kept bucket s'.record)
      (hprovider : Building adapters bucket s.provider s'.provider)
  /-- It has read a marked record and has not removed the finalizer. -/
  | razing (bucket : Bucket) (hread : Marks s.record (some bucket))
      (marked : bucket.isBeingDeleted = true) (hrecord : s'.record = some bucket)
      (hprovider : Razing adapters bucket s.provider s'.provider)
  /-- It has removed the finalizer. -/
  | razed (bucket : Bucket) (hread : Marks s.record (some bucket))
      (marked : bucket.isBeingDeleted = true) (hrecord : s'.record = unfinalized bucket)
      (hprovider : Razed adapters bucket s.provider s'.provider)

end Stages

/-! ### What marking does not disturb -/

/-- What does not depend on whether the record is marked. -/
def Unshaken (P : Option Bucket → Prop) : Prop := ∀ r r', P r → Marks r r' → P r'

lemma unshaken_marks (record : Option Bucket) : Unshaken (Marks record) :=
  fun _ _ h h' => h.trans h'

lemma unshaken_eq_some {bucket : Bucket} (hb : bucket.isBeingDeleted = true) :
    Unshaken (· = some bucket) := by
  rintro _ r' rfl h
  exact marks_of_isBeingDeleted hb h

lemma unshaken_unfinalized {bucket : Bucket} (hb : bucket.isBeingDeleted = true) :
    Unshaken (· = unfinalized bucket) := by
  rintro _ r' rfl h
  unfold unfinalized at h ⊢
  split at h
  · unfold withFinalizers at h ⊢
    split at h
    · rename_i hnone
      rw [if_pos hnone]
      exact marks_none h
    · rename_i hsome
      rw [if_neg hsome]
      exact marks_of_isBeingDeleted hb h
  · exact marks_of_isBeingDeleted hb h

lemma hasFinalizer_ne_nil {bucket : Bucket} {finalizer : String}
    (h : bucket.hasFinalizer finalizer = true) : bucket.metadata.finalizers.isEmpty = false := by
  unfold Bucket.hasFinalizer at h
  cases hf : bucket.metadata.finalizers with
  | nil =>
    rw [hf] at h
    cases h
  | cons f fs => rfl

/-- A record that has a finalizer stays when it is marked. -/
lemma marked_of_hasFinalizer {timestamp finalizer : String} {bucket : Bucket}
    (h : bucket.hasFinalizer finalizer = true) :
    ∃ b ∈ marked timestamp bucket, b.hasFinalizer finalizer = true := by
  unfold marked
  split
  · exact ⟨bucket, rfl, h⟩
  · rw [hasFinalizer_ne_nil h]
    exact ⟨_, rfl, h⟩

lemma unshaken_kept (bucket : Bucket) : Unshaken (Kept bucket) := by
  intro r r' h hm
  cases hm with
  | unmarked => exact h
  | marked timestamp b =>
    constructor
    · intro b' hb'
      rw [(marked_fields hb').1]
      exact h.terms b rfl
    · intro hf
      obtain ⟨_, ⟨⟩, hb⟩ := h.finalizer hf
      exact marked_of_hasFinalizer hb

@[simp] lemma not_isHeld_none : ¬ IsHeld none := by
  rintro ⟨_, ⟨⟩, _⟩

@[simp] lemma isHeld_some {bucket : Bucket} :
    IsHeld (some bucket) ↔ bucket.hasFinalizer Bucket.finalizer = true := by
  simp [IsHeld]

@[simp] lemma isDoomed_some {bucket : Bucket} :
    IsDoomed (some bucket) ↔ bucket.isBeingDeleted = true := by
  simp [IsDoomed]

/-- Marking neither adds nor removes the finalizer. -/
lemma isHeld_of_marks {r r' : Option Bucket} (h : Marks r r') : IsHeld r' ↔ IsHeld r := by
  cases h with
  | unmarked => rfl
  | marked timestamp bucket =>
    rw [isHeld_some]
    constructor
    · rintro ⟨b, hb, hf⟩
      unfold Bucket.hasFinalizer at hf ⊢
      rw [← (marked_fields hb).2]
      exact hf
    · exact marked_of_hasFinalizer

lemma unshaken_isDoomed : Unshaken IsDoomed := by
  intro r r' hr h
  cases h with
  | unmarked => exact hr
  | marked timestamp bucket =>
    intro b hb
    exact isBeingDeleted_of_marked hb

/-! ### Edits of a record -/

/-- Adding the finalizer to a record that has it changes nothing. -/
lemma Kept.addFinalizer {bucket : Bucket} {record after : Option Bucket}
    {outcome : Except Failure Unit} (h : Kept bucket record)
    (ha : Refinalized (Kubernetes.withFinalizer? bucket.metadata.finalizers Bucket.finalizer)
      outcome record after) : Kept bucket after := by
  cases hw : Kubernetes.withFinalizer? bucket.metadata.finalizers Bucket.finalizer with
  | none =>
    rw [hw] at ha
    obtain ⟨_, rfl⟩ := ha
    exact h
  | some finalizers =>
    rw [hw] at ha
    have hbucket : ¬ bucket.hasFinalizer Bucket.finalizer = true :=
      mt hasFinalizer_iff_mem.1 (Kubernetes.withFinalizer?_eq_some_iff.1 hw).1
    cases record with
    | none =>
      obtain ⟨_, rfl⟩ := ha
      exact h
    | some b =>
      rcases ha with rfl | ⟨_, rfl⟩
      · refine ⟨?_, fun hf => absurd hf hbucket⟩
        intro b' hb'
        unfold withFinalizers at hb'
        split at hb'
        · cases hb'
        · cases hb'
          exact h.terms b rfl
      · exact h

lemma Kept.patchStatus {bucket : Bucket} {record after : Option Bucket}
    {outcome : Except Failure Unit} {status : BucketStatus} (h : Kept bucket record)
    (ha : Edited (fun b => some { b with status := some status }) outcome record after) :
    Kept bucket after := by
  cases record with
  | none =>
    obtain ⟨_, rfl⟩ := ha
    exact h
  | some b =>
    rcases ha with rfl | ⟨_, rfl⟩
    · constructor
      · rintro b' ⟨⟩
        exact h.terms b rfl
      · intro hf
        obtain ⟨_, ⟨⟩, hb⟩ := h.finalizer hf
        exact ⟨_, rfl, hb⟩
    · exact h

/-- Removing the finalizer removes it, or fails and may leave it. -/
lemma unfinalized_of_removeFinalizer {bucket : Bucket} {after : Option Bucket}
    {outcome : Except Failure Unit}
    (h : Refinalized (Kubernetes.withoutFinalizer? bucket.metadata.finalizers Bucket.finalizer)
      outcome (some bucket) after) : after = unfinalized bucket ∨ after = some bucket := by
  unfold unfinalized
  cases hw : Kubernetes.withoutFinalizer? bucket.metadata.finalizers Bucket.finalizer with
  | some finalizers =>
    rw [hw] at h
    rcases h with rfl | ⟨_, rfl⟩
    · exact .inl rfl
    · exact .inr rfl
  | none =>
    rw [hw] at h
    exact .inr h.2

/-! ### What each phase makes of a situation -/

section Phases

variable {π : Type} {adapters : Adapters π} {s₀ s : Situation π} {bucket : Bucket}
  {provider : CloudProvider}

/-- Some steps stay within the stages of an invocation that began in a situation. -/
abbrev Staged (adapters : Adapters π) (s₀ : Situation π) (steps : Steps Outcome)
    (s : Situation π) : Prop :=
  steps.run.Ensures (attended adapters) (fun s _ => Stage adapters s₀ s)
    (fun s _ => Stage adapters s₀ s) s

lemma quiet_situation {R : Option Bucket → Prop} {P : π → Prop} (hR : Unshaken R)
    (hstage : ∀ r p, R r → P p → Stage adapters s₀ ⟨r, p⟩) :
    Quiet (attended adapters) (fun s _ => Stage adapters s₀ s)
      (fun s => R s.record ∧ P s.provider) := by
  rintro s c ⟨hr, hp⟩ hc
  refine ⟨hstage _ _ hr hp, ?_⟩
  rintro a s' ⟨record, hm, h⟩
  cases c with
  | clock =>
    cases h
    exact ⟨hR _ _ hr hm, hp⟩
  | record e =>
    cases h
    exact ⟨hR _ _ hr hm, hp⟩
  | _ => cases hc

/-- A call to the adapters changes the provider, and the record only by marking. -/
lemma staged_observe_bind {α : Type} {c : Call} {outcomeOf : c.Answer → Except Failure α}
    {operation : String} {f : α → Steps Outcome} {R : Option Bucket → Prop} {P : π → Prop}
    {Q : c.Answer → π → Prop} (hR : Unshaken R)
    (hcall : ∀ s a s', P s.provider → Answers adapters s c a s' →
      s'.record = s.record ∧ Q a s'.provider)
    (hbefore : ∀ r p, R r → P p → Stage adapters s₀ ⟨r, p⟩)
    (hafter : ∀ a r p, R r → Q a p → Stage adapters s₀ ⟨r, p⟩)
    (hf : ∀ a v s, outcomeOf a = .ok v → R s.record → Q a s.provider →
      Staged adapters s₀ (f v) s)
    (hr : R s.record) (hp : P s.provider) :
    Staged adapters s₀
      (Steps.observe provider operation (.ask c fun r => .done (outcomeOf r)) >>= f) s := by
  rw [Staged, ensures_steps_bind]
  refine ensures_observe (A := fun s => R s.record ∧ P s.provider)
    (R := fun a s => R s.record ∧ Q a s.provider) (quiet_situation hR hbefore)
    ?_ ?_ (fun a => quiet_situation hR (hafter a)) ?_ ⟨hr, hp⟩
  · rintro s ⟨hr, hp⟩
    exact hbefore _ _ hr hp
  · rintro s a s' ⟨hr, hp⟩ ⟨record, hm, h⟩
    obtain ⟨hsame, hq⟩ := hcall ⟨record, s.provider⟩ a s' hp h
    rw [hsame]
    exact ⟨hR _ _ hr hm, hq⟩
  · rintro a s ⟨hr, hq⟩
    cases ho : outcomeOf a with
    | error failure => exact hafter a _ _ hr hq
    | ok v => exact hf a v s ho hr hq

/-- Any other call leaves the provider alone. -/
lemma staged_ask_bind {α : Type} {c : Call} {outcomeOf : c.Answer → Except Failure α}
    {f : α → Steps Outcome} (hs : Stage adapters s₀ s)
    (hcall : ∀ a s', attended adapters s c a s' → Stage adapters s₀ s')
    (hf : ∀ a v s', attended adapters s c a s' → outcomeOf a = .ok v →
      Staged adapters s₀ (f v) s') :
    Staged adapters s₀ ((ExceptT.mk (.ask c fun r => .done (outcomeOf r)) : Steps α) >>= f) s := by
  rw [Staged, ensures_steps_bind]
  refine ⟨hs, ?_⟩
  intro a s' h
  rw [Program.ensures_done]
  cases ho : outcomeOf a with
  | error failure => exact hcall a s' h
  | ok v => exact hf a v s' h ho

/-! ### Releases -/

lemma staged_letGo {p : π} (hread : Marks s₀.record (some bucket))
    (marked : bucket.isBeingDeleted = true) (hrazed : Razed adapters bucket s₀.provider p)
    (hrazing : Razing adapters bucket s₀.provider p) (hr : s.record = some bucket)
    (hp : s.provider = p) : Staged adapters s₀ (letGo bucket) s := by
  have hcall : ∀ a s', attended adapters s (.removeFinalizer bucket) a s' →
      Stage adapters s₀ s' := by
    rintro a s' ⟨record, hm, hprovider, hedit⟩
    rw [hr] at hm
    cases marks_of_isBeingDeleted marked hm
    have hp' : s'.provider = p := hprovider.trans hp
    rcases unfinalized_of_removeFinalizer hedit with h | h
    · exact .razed bucket hread marked h (hp' ▸ hrazed)
    · exact .razing bucket hread marked h (hp' ▸ hrazing)
  refine staged_ask_bind ?_ hcall ?_
  · exact .razing bucket hread marked hr (hp ▸ hrazing)
  · intro a v s' h _
    exact hcall a s' h

lemma staged_purge {p₁ : π} (hread : Marks s₀.record (some bucket))
    (marked : bucket.isBeingDeleted = true)
    (hfound : adapters.doesExist bucket s₀.provider (.ok true) p₁)
    (hpolicy : bucket.spec.reclaimPolicy = .delete) (hr : s.record = some bucket)
    (hp : s.provider = p₁) : Staged adapters s₀ (purge provider bucket) s := by
  have hstage : ∀ r p, r = some bucket → Razing adapters bucket s₀.provider p →
      Stage adapters s₀ ⟨r, p⟩ := fun r p hr hp => .razing bucket hread marked hr hp
  refine staged_observe_bind (P := (· = p₁))
    (Q := fun a p => adapters.change .deleteBucket bucket p₁ a p) (unshaken_eq_some marked)
    ?_ ?_ ?_ ?_ hr hp
  · rintro s a s' hp ⟨hrecord, hchange⟩
    exact ⟨hrecord, hp ▸ hchange⟩
  · rintro r p hr rfl
    exact hstage r _ hr (.asked hfound)
  · intro a r p hr hp
    exact hstage r p hr (.bucket hfound hpolicy hp)
  · rintro _ ⟨⟩ s₂ rfl hr₂ hdeleted
    -- Counting the deletion is a note, which only marking accompanies.
    rw [Staged, ensures_steps_bind]
    refine ⟨hstage _ _ hr₂ (.bucket hfound hpolicy hdeleted), ?_⟩
    rintro u s₃ ⟨record, hm, rfl⟩
    rw [hr₂] at hm
    cases marks_of_isBeingDeleted marked hm
    rw [Program.ensures_done]
    change Staged adapters s₀ (if _ then _ else _) _
    split
    · rename_i hrole
      refine staged_observe_bind (P := (· = s₂.provider))
        (Q := fun a p => adapters.change .deleteRole bucket s₂.provider a p)
        (unshaken_eq_some marked) ?_ ?_ ?_ ?_ rfl rfl
      · rintro s a s' hp ⟨hrecord, hchange⟩
        exact ⟨hrecord, hp ▸ hchange⟩
      · rintro r p hr rfl
        exact hstage r _ hr (.bucket hfound hpolicy hdeleted)
      · intro a r p hr hp
        exact hstage r p hr (.role hfound hpolicy hdeleted hrole hp)
      · rintro _ ⟨⟩ s₄ rfl hr₄ hunbound
        exact staged_letGo hread marked (.role hfound hpolicy hdeleted hrole hunbound)
          (.role hfound hpolicy hdeleted hrole hunbound) hr₄ rfl
    · rename_i hrole
      exact staged_letGo hread marked (.bucket hfound hpolicy hdeleted hrole)
        (.bucket hfound hpolicy hdeleted) rfl rfl

lemma staged_release (hread : Marks s₀.record (some bucket))
    (marked : bucket.isBeingDeleted = true) (hr : s.record = some bucket)
    (hp : s.provider = s₀.provider) : Staged adapters s₀ (release provider bucket) s := by
  have hstage : ∀ r p, r = some bucket → Razing adapters bucket s₀.provider p →
      Stage adapters s₀ ⟨r, p⟩ := fun r p hr hp => .razing bucket hread marked hr hp
  rw [release_eq]
  refine staged_observe_bind (P := (· = s₀.provider))
    (Q := fun a p => adapters.doesExist bucket s₀.provider a p) (unshaken_eq_some marked)
    ?_ ?_ ?_ ?_ hr hp
  · rintro s a s' hp ⟨hrecord, hfound⟩
    exact ⟨hrecord, hp ▸ hfound⟩
  · rintro r p hr rfl
    exact hstage r _ hr (.idle _)
  · intro a r p hr hp
    exact hstage r p hr (.asked hp)
  · rintro _ found s₁ rfl hr₁ hfound
    split
    · rename_i hpurge
      simp only [Bool.and_eq_true, beq_iff_eq] at hpurge
      obtain ⟨rfl, hpolicy⟩ := hpurge
      exact staged_purge hread marked hfound hpolicy hr₁ rfl
    · rename_i hkeep
      refine staged_letGo hread marked (.kept hfound ?_) (.asked hfound) hr₁ rfl
      intro hf hpolicy
      simp [hf, hpolicy] at hkeep

/-! ### Convergence -/

lemma staged_report (hread : Marks s₀.record (some bucket))
    (alive : bucket.isBeingDeleted = false) (hr : Kept bucket s.record)
    (hp : Building adapters bucket s₀.provider s.provider) :
    Staged adapters s₀ (report bucket) s := by
  unfold report
  split
  · have hcall : ∀ a s', attended adapters s (.patchStatus bucket bucket.readyStatus) a s' →
        Stage adapters s₀ s' := by
      rintro a s' ⟨record, hm, hprovider, hedit⟩
      refine .building bucket hread alive ((unshaken_kept bucket _ _ hr hm).patchStatus hedit) ?_
      rw [hprovider]
      exact hp
    refine staged_ask_bind (.building bucket hread alive hr hp) hcall ?_
    intro a v s' h _
    exact hcall a s' h
  · exact .building bucket hread alive hr hp

/-- A change that deletes nothing goes on building. -/
lemma staged_change_bind {c : Change} {f : Unit → Steps Outcome}
    (hread : Marks s₀.record (some bucket)) (alive : bucket.isBeingDeleted = false)
    (hbucket : c ≠ .deleteBucket) (hrole : c ≠ .deleteRole)
    (hf : ∀ s, Kept bucket s.record → Building adapters bucket s₀.provider s.provider →
      Staged adapters s₀ (f ()) s)
    (hr : Kept bucket s.record) (hp : Building adapters bucket s₀.provider s.provider) :
    Staged adapters s₀ (Steps.change provider c bucket >>= f) s := by
  refine staged_observe_bind (P := Building adapters bucket s₀.provider)
    (Q := fun _ => Building adapters bucket s₀.provider) (unshaken_kept bucket)
    ?_ ?_ ?_ ?_ hr hp
  · rintro s a s' hp ⟨hrecord, hchange⟩
    exact ⟨hrecord, hp.changed hbucket hrole hchange⟩
  · intro r p hr hp
    exact .building bucket hread alive hr hp
  · intro a r p hr hp
    exact .building bucket hread alive hr hp
  · rintro _ ⟨⟩ s rfl hr hp
    exact hf s hr hp

lemma staged_place {found : Bool} (hread : Marks s₀.record (some bucket))
    (alive : bucket.isBeingDeleted = false) (hr : Kept bucket s.record)
    (hp : Building adapters bucket s₀.provider s.provider) :
    Staged adapters s₀ (place provider bucket found) s := by
  refine staged_change_bind hread alive (by cases found <;> decide) (by cases found <;> decide)
    ?_ hr hp
  intro s hr hp
  refine staged_change_bind hread alive (by decide) (by decide) ?_ hr hp
  intro s hr hp
  split
  · refine staged_change_bind hread alive (by decide) (by decide) ?_ hr hp
    intro s hr hp
    exact staged_report hread alive hr hp
  · exact staged_report hread alive hr hp

lemma staged_converge (hread : Marks s₀.record (some bucket))
    (alive : bucket.isBeingDeleted = false) (hr : Kept bucket s.record)
    (hp : s.provider = s₀.provider) : Staged adapters s₀ (converge provider bucket) s := by
  have hadd : ∀ a s', attended adapters s (.addFinalizer bucket) a s' →
      Kept bucket s'.record ∧ Building adapters bucket s₀.provider s'.provider := by
    rintro a s' ⟨record, hm, hprovider, hedit⟩
    refine ⟨(unshaken_kept bucket _ _ hr hm).addFinalizer hedit, ?_⟩
    rw [hprovider, hp]
    exact .idle _
  rw [converge_eq]
  refine staged_ask_bind ?_ ?_ ?_
  · exact .building bucket hread alive hr (hp ▸ .idle _)
  · intro a s' h
    obtain ⟨hr, hp⟩ := hadd a s' h
    exact .building bucket hread alive hr hp
  rintro a v s₁ h -
  obtain ⟨hr, hp⟩ := hadd a s₁ h
  refine staged_observe_bind (P := Building adapters bucket s₀.provider)
    (Q := fun _ => Building adapters bucket s₀.provider) (unshaken_kept bucket)
    ?_ ?_ ?_ ?_ hr hp
  · rintro s a s' hp ⟨hrecord, hfound⟩
    exact ⟨hrecord, hp.asked hfound⟩
  · intro r p hr hp
    exact .building bucket hread alive hr hp
  · intro a r p hr hp
    exact .building bucket hread alive hr hp
  · rintro _ found s rfl hr hp
    exact staged_place hread alive hr hp

/-! ### Invocations -/

/-- Between reading the record and acting upon it only marking happens. -/
lemma staged_proceed (hread : Marks s₀.record (some bucket))
    (hr : Marks (some bucket) s.record) (hp : s.provider = s₀.provider) :
    Staged adapters s₀ (proceed bucket) s := by
  have hstage : ∀ s : Situation π, Marks (some bucket) s.record → s.provider = s₀.provider →
      Stage adapters s₀ s := fun s hr hp => .waiting (hread.trans hr) hp
  refine staged_ask_bind (hstage s hr hp) ?_ ?_
  · rintro a _ ⟨record, hm, rfl, -⟩
    exact hstage _ (hr.trans hm) hp
  rintro _ cluster _ ⟨record, hm, rfl, -⟩ rfl
  have hr₁ : Marks (some bucket) record := hr.trans hm
  refine staged_ask_bind (hstage _ hr₁ hp) ?_ ?_
  · rintro a _ ⟨record', hm', rfl⟩
    exact hstage _ (hr₁.trans hm') hp
  rintro _ ⟨⟩ _ ⟨record', hm', rfl⟩ rfl
  have hr₂ : Marks (some bucket) record' := hr₁.trans hm'
  split
  · rename_i marked
    exact staged_release hread marked (marks_of_isBeingDeleted marked hr₂) hp
  · rename_i alive
    refine staged_converge hread (Bool.not_eq_true _ ▸ alive) ?_ hp
    exact unshaken_kept bucket _ _ ⟨fun _ h => by cases h; rfl, fun h => ⟨bucket, rfl, h⟩⟩ hr₂

lemma staged_reconcile {namespaceName name : String} (hr : Marks s₀.record s.record)
    (hp : s.provider = s₀.provider) :
    Staged adapters s₀ (reconcile namespaceName name) s := by
  have hload : ∀ a s', attended adapters s (.load namespaceName name) a s' →
      Marks s₀.record s'.record ∧ s'.provider = s₀.provider := by
    rintro a _ ⟨record, hm, rfl, -⟩
    exact ⟨hr.trans hm, hp⟩
  rw [reconcile_eq]
  refine staged_ask_bind (.waiting hr hp) ?_ ?_
  · intro a s' h
    obtain ⟨hr, hp⟩ := hload a s' h
    exact .waiting hr hp
  rintro _ found s₁ h rfl
  obtain ⟨hr₁, hp₁⟩ := hload _ s₁ h
  obtain ⟨record, hm, rfl, hfound⟩ := h
  cases hfound found rfl
  cases record with
  | none => exact .waiting hr₁ hp₁
  | some bucket => exact staged_proceed hr₁ (.unmarked _) hp₁

/-- A situation in some stage stays in it when the record is marked. -/
lemma quiet_stage : Quiet (attended adapters) (fun s _ => Stage adapters s₀ s)
    (Stage adapters s₀) := by
  rintro s c h hc
  refine ⟨h, ?_⟩
  rintro a s' ⟨record, hm, ha⟩
  have hs' : s' = ⟨record, s.provider⟩ := by
    cases c with
    | clock => exact ha
    | record e => exact ha
    | _ => cases hc
  subst hs'
  cases h with
  | waiting hr hp => exact .waiting (hr.trans hm) hp
  | building b hread alive hr hp =>
    exact .building b hread alive (unshaken_kept b _ _ hr hm) hp
  | razing b hread marked hr hp =>
    exact .razing b hread marked (unshaken_eq_some marked _ _ hr hm) hp
  | razed b hread marked hr hp =>
    exact .razed b hread marked (unshaken_unfinalized marked _ _ hr hm) hp

lemma ensures_stage (adapters : Adapters π) (s₀ : Situation π) (namespaceName name : String) :
    (invoke namespaceName name).Ensures (attended adapters) (fun s _ => Stage adapters s₀ s)
      (fun s _ => Stage adapters s₀ s) s₀ := by
  refine ensures_invoke (A := fun s => Marks s₀.record s.record ∧ s.provider = s₀.provider)
    ⟨.unmarked _, rfl⟩ ?_ ?_
  · exact quiet_situation (P := (· = s₀.provider)) (unshaken_marks _)
      fun r p hr hp => .waiting hr hp
  · rintro s ⟨hr, hp⟩
    refine (staged_reconcile hr hp).mono (fun _ _ h => h) ?_
    rintro s' (_ | outcome) h
    · exact h
    · exact ⟨Stage adapters s₀, h, quiet_stage, fun _ h => h⟩

/-- Wherever an invocation stops, it has brought the situation to one of the four stages. -/
theorem Invocation.stage {namespaceName name : String} {s s' : Situation π}
    (h : Invocation adapters namespaceName name s s') : Stage adapters s s' := by
  obtain ⟨t, rest, hrest, ht⟩ := h
  exact ((ensures_stage adapters s namespaceName name).along hrest ht).holds

end Phases

/-! ### What stages mean for the record -/

section Records

variable {π : Type} {adapters : Adapters π} {s s' : Situation π}

/-- Removing the finalizer leaves the rest of a record alone. -/
lemma unfinalized_fields {bucket b : Bucket} (h : b ∈ unfinalized bucket) :
    terms b = terms bucket ∧ b.isBeingDeleted = bucket.isBeingDeleted := by
  unfold unfinalized at h
  split at h
  · unfold withFinalizers at h
    split at h
    · cases h
    · cases h
      exact ⟨rfl, rfl⟩
  · cases h
    exact ⟨rfl, rfl⟩

lemma isDoomed_unfinalized {bucket : Bucket} (hb : bucket.isBeingDeleted = true) :
    IsDoomed (unfinalized bucket) := by
  intro b h
  rw [(unfinalized_fields h).2]
  exact hb

lemma unfinalized_of_not_isHeld {bucket : Bucket}
    (h : ¬ bucket.hasFinalizer Bucket.finalizer = true) : unfinalized bucket = some bucket := by
  rw [unfinalized, Kubernetes.withoutFinalizer?_eq_none_iff.2 (mt hasFinalizer_iff_mem.2 h)]

lemma Razed.razing {bucket : Bucket} {p p' : π} (h : Razed adapters bucket p p') :
    Razing adapters bucket p p' := by
  cases h with
  | kept hfound _ => exact .asked hfound
  | bucket hfound hpolicy hbucket _ => exact .bucket hfound hpolicy hbucket
  | role hfound hpolicy hbucket hrole hr => exact .role hfound hpolicy hbucket hrole hr

/-- The terms of a record do not change. -/
lemma Stage.terms {P : BucketSpec × Option String → Prop} (h : Stage adapters s s')
    (hs : ∀ b ∈ s.record, P (terms b)) : ∀ b ∈ s'.record, P (Reconcile.terms b) := by
  have hmarks : ∀ r, Marks s.record r → ∀ b ∈ r, P (Reconcile.terms b) := by
    intro r hr b hb
    generalize s.record = r₀ at hr hs
    cases hr with
    | unmarked => exact hs b hb
    | marked timestamp b₀ =>
      rw [(marked_fields hb).1]
      exact hs b₀ rfl
  cases h with
  | waiting hr _ => exact hmarks _ hr
  | building bucket hread _ hr _ =>
    intro b hb
    rw [hr.terms b hb]
    exact hmarks _ hread bucket rfl
  | razing bucket hread _ hr _ =>
    rw [hr]
    exact hmarks _ hread
  | razed bucket hread _ hr _ =>
    rw [hr]
    intro b hb
    rw [(unfinalized_fields hb).1]
    exact hmarks _ hread bucket rfl

/-- The finalizer stays until a release has done its work at the provider. -/
lemma Stage.held (h : Stage adapters s s') (hs : IsHeld s.record) :
    IsHeld s'.record ∨ ∃ bucket, Marks s.record (some bucket) ∧
      bucket.isBeingDeleted = true ∧ s'.record = unfinalized bucket ∧
      Razed adapters bucket s.provider s'.provider := by
  cases h with
  | waiting hr _ => exact .inl ((isHeld_of_marks hr).2 hs)
  | building bucket hread _ hr _ =>
    exact .inl (hr.finalizer (isHeld_some.1 ((isHeld_of_marks hread).2 hs)))
  | razing bucket hread _ hr _ =>
    rw [hr]
    exact .inl ((isHeld_of_marks hread).2 hs)
  | razed bucket hread marked hr hp => exact .inr ⟨bucket, hread, marked, hr, hp⟩

/-- A record that is marked or gone stays so, and is only torn down. -/
lemma Stage.doomed (h : Stage adapters s s') (hs : IsDoomed s.record) :
    IsDoomed s'.record ∧ (s'.provider = s.provider ∨
      ∃ bucket ∈ s.record, Razing adapters bucket s.provider s'.provider) := by
  have hread : ∀ bucket, Marks s.record (some bucket) → bucket ∈ s.record := by
    intro bucket h
    cases hr : s.record with
    | none =>
      rw [hr] at h
      cases marks_none h
    | some b =>
      rw [hr] at h
      rw [hr, isDoomed_some] at hs
      exact (marks_of_isBeingDeleted hs h).symm
  cases h with
  | waiting hr hp => exact ⟨unshaken_isDoomed _ _ hs hr, .inl hp⟩
  | building bucket hm alive hr hp =>
    rw [hs bucket (hread bucket hm)] at alive
    cases alive
  | razing bucket hm marked hr hp =>
    rw [hr]
    exact ⟨isDoomed_some.2 marked, .inr ⟨bucket, hread bucket hm, hp⟩⟩
  | razed bucket hm marked hr hp =>
    rw [hr]
    exact ⟨isDoomed_unfinalized marked, .inr ⟨bucket, hread bucket hm, hp.razing⟩⟩

/-- A record that is marked or gone does not get the finalizer. -/
lemma Stage.not_isHeld (h : Stage adapters s s') (hs : IsDoomed s.record)
    (hheld : ¬ IsHeld s.record) : ¬ IsHeld s'.record := by
  cases h with
  | waiting hr _ => exact fun h => hheld ((isHeld_of_marks hr).1 h)
  | building bucket hm alive _ _ =>
    have hrecord := eq_of_marks_alive alive hm
    rw [hs bucket hrecord] at alive
    cases alive
  | razing bucket hm _ hr _ =>
    rw [hr]
    exact fun h => hheld ((isHeld_of_marks hm).1 h)
  | razed bucket hm _ hr _ =>
    have hb : ¬ IsHeld (some bucket) := fun h => hheld ((isHeld_of_marks hm).1 h)
    rw [hr, unfinalized_of_not_isHeld (fun h => hb (isHeld_some.2 h))]
    exact hb

end Records

end BucketOperator.Reconcile
