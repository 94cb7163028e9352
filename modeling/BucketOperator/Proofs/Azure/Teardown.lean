import BucketOperator.Proofs.Azure.Removal
import BucketOperator.Proofs.Reconcile.Stages
import BucketOperator.Reconcile.Serve

/-!
# The teardown of buckets on Azure

An invocation whose adapters are those of an Azure cluster may stop at any call, also in the middle
of an adapter's work. A release looks for the account and the container before it removes anything.
So nothing is left once the finalizer is gone if the release found both, or if there was nothing;
whatever else there was stays for ever.
-/

namespace BucketOperator.Azure

open Reconcile
open Program (Reaches Returns)

/-! ### Invocations on Azure -/

/-- How the calls of a reconciliation are made when its adapters are those of an Azure cluster. -/
def adapted (cluster : AzureContext) :
    (c : Reconcile.Call) → Program (Collaborators.sum Api) c.Answer
  | .doesExist bucket => (ExceptT.run (Storage.doesExist cluster bucket)).right
  | .change c bucket => (ExceptT.run (Services.azureChange cluster bucket c)).right
  | .load namespaceName name => .ask (.inl (.load namespaceName name)) .done
  | .resolve => .ask (.inl .resolve) .done
  | .services cluster => .ask (.inl (.services cluster)) .done
  | .addFinalizer bucket => .ask (.inl (.addFinalizer bucket)) .done
  | .removeFinalizer bucket => .ask (.inl (.removeFinalizer bucket)) .done
  | .patchStatus bucket status => .ask (.inl (.patchStatus bucket status)) .done
  | .clock => .ask (.inl .clock) .done
  | .record event => .ask (.inl (.record event)) .done

/-- Adapters that are never asked. -/
def unasked (cluster : AzureContext) : Adapters Estate where
  cluster := .azure cluster
  doesExist _ _ _ _ := False
  change _ _ _ _ _ := False

/-- The collaborators of a record, and the estate. The record may be marked before every answer. -/
def supervised (cluster : AzureContext) : Behaviour (Collaborators.sum Api) (Situation Estate)
  | s, .inl c, r, s' => attended (unasked cluster) s c r s'
  | s, .inr c, r, s' => Marks s.record s'.record ∧ s.provider.Answers c r s'.provider

/-- One invocation, which may stop after any call, takes a situation to another. -/
def Invocation (cluster : AzureContext) (namespaceName name : String)
    (s s' : Situation Estate) : Prop :=
  ∃ t rest, ((invoke namespaceName name).substitute (adapted cluster)).After t rest ∧
    Along (supervised cluster) s t s'

/-! ### Its stages -/

/-- The adapters of an Azure cluster, each call as a whole. One that stops in the middle counts as
one that fails. -/
def adapters (cluster : AzureContext) : Adapters Estate where
  cluster := .azure cluster
  doesExist bucket e r e' :=
    Reaches managed (ExceptT.run (Storage.doesExist cluster bucket)) e r e'
  change c bucket e r e' :=
    Reaches managed (ExceptT.run (Services.azureChange cluster bucket c)) e r e'

section Stages

variable {cluster : AzureContext} {namespaceName name : String} {s s' : Situation Estate}

/-- An adapter's program brings the estate where the adapter as a whole may bring it. -/
lemma ensures_adapter {α : Type} {p : Program Api (Except BucketOperator.Failure α)}
    {P : Situation Estate → Prop}
    {K : Except BucketOperator.Failure α → Situation Estate → Prop}
    (hK : ∀ r s', Marks s.record s'.record → Reaches managed p s.provider r s'.provider → K r s')
    (hP : ∀ r s', K r s' → P s') :
    (p.right (I := Collaborators)).Ensures (supervised cluster) (fun s _ => P s)
      (Returns (fun s' r => K r s') P) s := by
  -- Every state on the way is one in which the adapter may fail.
  have hmiddle : ∀ q s', (∃ t, p.After t q ∧ Marks s.record s'.record ∧
      Along managed s.provider t s'.provider) → P s' := by
    rintro q s' ⟨t, hq, hm, ht⟩
    have hfailed : Reaches managed p s.provider (.error (.controlPlane .other)) s'.provider :=
      ⟨t, q, hq, ht, .inr ⟨_, rfl⟩⟩
    exact hP _ s' (hK _ s' hm hfailed)
  refine Program.ensures_right (R := fun q s' => ∃ t, p.After t q ∧ Marks s.record s'.record ∧
    Along managed s.provider t s'.provider) ⟨[], .here p, .unmarked _, .nil _⟩ ?_ ?_ ?_ ?_
  · intro c next s' h
    exact hmiddle _ s' h
  · rintro c next s₁ r s₂ ⟨t, hq, hm, ht⟩ ⟨hm', hr⟩
    refine ⟨t ++ [⟨c, r⟩], ?_, hm.trans hm', ht.append (.cons hr (.nil _))⟩
    exact Program.after_append_iff.2 ⟨_, hq, .answered (.here _)⟩
  · rintro r s' ⟨t, hq, hm, ht⟩
    exact hK r s' hm ⟨t, _, hq, ht, .inl rfl⟩
  · intro s' h
    exact hmiddle _ s' h

/-- Wherever an invocation on Azure stops, it has brought the situation to a stage. -/
theorem Invocation.stage (h : Invocation cluster namespaceName name s s') :
    Stage (adapters cluster) s s' := by
  obtain ⟨t, rest, hrest, ht⟩ := h
  have hstage := (ensures_stage (adapters cluster) s namespaceName name).ahead
  have hadapted : ((invoke namespaceName name).substitute (adapted cluster)).Ensures
      (supervised cluster) (fun s' _ => Stage (adapters cluster) s s')
      (fun s' _ => Stage (adapters cluster) s s') s := by
    refine hstage.substitute ?_
    rintro s₁ c ⟨hs₁, hnext⟩
    cases c with
    | doesExist bucket =>
      exact ensures_adapter (K := attended (adapters cluster) s₁ (.doesExist bucket))
        (fun r s₂ hm hr => ⟨_, hm, rfl, hr⟩) hnext
    | change c bucket =>
      exact ensures_adapter (K := attended (adapters cluster) s₁ (.change c bucket))
        (fun r s₂ hm hr => ⟨_, hm, rfl, hr⟩) hnext
    | load n m => exact ⟨hs₁, fun _ _ h => h⟩
    | resolve => exact ⟨hs₁, fun _ _ h => h⟩
    | services cluster => exact ⟨hs₁, fun _ _ h => h⟩
    | addFinalizer bucket => exact ⟨hs₁, fun _ _ h => h⟩
    | removeFinalizer bucket => exact ⟨hs₁, fun _ _ h => h⟩
    | patchStatus bucket status => exact ⟨hs₁, fun _ _ h => h⟩
    | clock => exact ⟨hs₁, fun _ _ h => h⟩
    | record event => exact ⟨hs₁, fun _ _ h => h⟩
  exact (hadapted.along hrest ht).holds

end Stages

/-! ### What a release does to the estate -/

section Releases

variable {cluster : AzureContext} {bucket : Bucket} {e e' : Estate}

/-- A bucket is found exactly if it is complete, and looking for it changes nothing. -/
lemma found_iff_isComplete {found : Bool}
    (h : (adapters cluster).doesExist bucket e (.ok found) e') :
    e' = e ∧ (found = true ↔ e.IsComplete (.of cluster bucket.spec.name)) := by
  exact ensures_doesExist.returns h

/-- A release changes nothing unless the bucket is complete. -/
lemma eq_of_razing (h : Razing (adapters cluster) bucket e e')
    (hpartial : ¬ e.IsComplete (.of cluster bucket.spec.name)) : e' = e := by
  cases h with
  | idle => rfl
  | asked hr => exact (ensures_doesExist.mono (fun _ _ h => h) fun _ _ h => h.1).reaches hr
  | bucket hfound => exact absurd ((found_iff_isComplete hfound).2.1 rfl) hpartial
  | role hfound => exact absurd ((found_iff_isComplete hfound).2.1 rfl) hpartial

/-- A release of a complete bucket leaves nothing. -/
lemma isClean_of_razed {namespaceName : String} (h : Razed (adapters cluster) bucket e e')
    (hpolicy : bucket.spec.reclaimPolicy = .delete)
    (hnamespace : bucket.metadata.namespaceName = some namespaceName)
    (hcomplete : e.IsComplete (.of cluster bucket.spec.name)) :
    e'.IsClean (.of cluster bucket.spec.name) namespaceName := by
  have hremoved : ∀ e₁ e₂, (adapters cluster).doesExist bucket e (.ok true) e₁ →
      (adapters cluster).change .deleteBucket bucket e₁ (.ok ()) e₂ →
      e₂.IsClean (.of cluster bucket.spec.name) namespaceName := by
    intro e₁ e₂ hfound hremove
    obtain ⟨rfl, -⟩ := found_iff_isComplete hfound
    exact ((ensures_remove fun _ => hcomplete.1).returns hremove).2 _ hnamespace
  cases h with
  | kept hfound hkeep =>
    have hf := (found_iff_isComplete hfound).2.2 hcomplete
    exact absurd hpolicy (hkeep hf)
  | bucket hfound _ hbucket _ => exact hremoved _ _ hfound hbucket
  | role hfound _ hbucket _ hr =>
    exact (hremoved _ _ hfound hbucket).shrinks (ensures_role_remove.reaches hr)

end Releases

/-! ### Histories -/

section Histories

variable {cluster : AzureContext} {namespaceName name : String} {bucketName home : String}

/-- The terms of a record: a named bucket that is to be deleted, in a namespace. -/
def Condemns (bucketName home : String) (terms : BucketSpec × Option String) : Prop :=
  terms.1.reclaimPolicy = .delete ∧ terms.1.name = bucketName ∧ terms.2 = some home

variable (history : History (Invocation cluster namespaceName name))

lemma terms_of_history
    (hterms : ∀ b ∈ (history.situation 0).record, Condemns bucketName home (terms b)) (n : Nat) :
    ∀ b ∈ (history.situation n).record, Condemns bucketName home (terms b) := by
  induction n with
  | zero => exact hterms
  | succ n ih => exact (history.next n).stage.terms ih

/-- After a release: the record is not held again, and the estate stays as it is. -/
structure Settled (ids : ResourceIds) (e : Estate) (s : Situation Estate) : Prop where
  doomed : IsDoomed s.record
  released : ¬ IsHeld s.record
  incomplete : ¬ e.IsComplete ids
  estate : s.provider = e

lemma Settled.next {e : Estate} {s s' : Situation Estate}
    (h : Settled (.of cluster bucketName) e s) (hstage : Stage (adapters cluster) s s')
    (hterms : ∀ b ∈ s.record, Condemns bucketName home (terms b)) :
    Settled (.of cluster bucketName) e s' := by
  obtain ⟨hdoomed, hp⟩ := hstage.doomed h.doomed
  refine ⟨hdoomed, hstage.not_isHeld h.doomed h.released, h.incomplete, ?_⟩
  rcases hp with hp | ⟨bucket, hb, hp⟩
  · rw [hp, h.estate]
  · have hname : bucket.spec.name = bucketName := (hterms bucket hb).2.1
    have hpartial : ¬ s.provider.IsComplete (.of cluster bucket.spec.name) := by
      rw [hname, h.estate]
      exact h.incomplete
    rw [eq_of_razing hp hpartial, h.estate]

/-- What a release makes of the estate: it removes a complete bucket, and nothing of any other. -/
lemma settled_of_release {s s' : Situation Estate} (hstage : Stage (adapters cluster) s s')
    (hterms : ∀ b ∈ s.record, Condemns bucketName home (terms b)) (hheld : IsHeld s.record)
    (hreleased : ¬ IsHeld s'.record) :
    Settled (.of cluster bucketName) s'.provider s' ∧
      (s'.provider.IsClean (.of cluster bucketName) home ↔
        s.provider.IsComplete (.of cluster bucketName) ∨
          s.provider.IsClean (.of cluster bucketName) home) := by
  rcases hstage.held hheld with hheld' | ⟨bucket, hread, marked, hrecord, hp⟩
  · exact absurd hheld' hreleased
  have hread' : Stage (adapters cluster) s ⟨some bucket, s.provider⟩ := .waiting hread rfl
  obtain ⟨hpolicy, rfl, hhome⟩ := hread'.terms hterms bucket rfl
  have hdoomed : IsDoomed s'.record := hrecord ▸ isDoomed_unfinalized marked
  by_cases hcomplete : s.provider.IsComplete (.of cluster bucket.spec.name)
  · have hclean := isClean_of_razed hp hpolicy hhome hcomplete
    exact ⟨⟨hdoomed, hreleased, hclean.not_isComplete, rfl⟩, fun _ => .inl hcomplete,
      fun _ => hclean⟩
  · have hsame := eq_of_razing hp.razing hcomplete
    refine ⟨⟨hdoomed, hreleased, hsame ▸ hcomplete, rfl⟩, ?_⟩
    rw [hsame]
    exact ⟨.inr, fun h => h.resolve_left hcomplete⟩

/-- Nothing is left after a release exactly if it began with a complete bucket or with nothing. -/
theorem clean_iff_complete_or_clean
    (hterms : ∀ b ∈ (history.situation 0).record, Condemns bucketName home (terms b))
    {j n : Nat} (hjn : j < n) (hheld : IsHeld (history.situation j).record)
    (hreleased : ¬ IsHeld (history.situation (j + 1)).record) :
    (history.situation n).provider.IsClean (.of cluster bucketName) home ↔
      (history.situation j).provider.IsComplete (.of cluster bucketName) ∨
        (history.situation j).provider.IsClean (.of cluster bucketName) home := by
  obtain ⟨hsettled, hclean⟩ := settled_of_release (history.next j).stage
    (terms_of_history history hterms j) hheld hreleased
  have hn : Settled (.of cluster bucketName) (history.situation (j + 1)).provider
      (history.situation n) := by
    induction hjn with
    | refl => exact hsettled
    | @step n _ ih =>
      exact ih.next (history.next n).stage (terms_of_history history hterms n)
  rw [hn.estate]
  exact hclean

end Histories

/-! ### An account that is left behind -/

/-- The record before its user marks it, and before it is finalized. -/
def fresh : Bucket :=
  { doomed with metadata := { doomed.metadata with
      finalizerList := none
      deletionTimestamp := none } }

def finalized : Bucket :=
  { fresh with metadata := { fresh.metadata with finalizerList := some [Bucket.finalizer] } }

/-- The account's tags are those of the record alone. -/
def accountBody : Json :=
  Account.body (default : AzureContext).region false (Storage.tags default fresh)

/-- The container cannot be put in place. -/
def unreachable : BucketOperator.Failure :=
  .provider "logs" "upsert blob container" (.azure .transport)

def notFound : Failure := .status 404 "ResourceNotFound" "not found"

/-- The ids of the record's resources. -/
abbrev logsIds : ResourceIds := .of default "logs"

/-- Calls to the collaborators. -/
def collaborating (t : Trace Collaborators) : Trace (Collaborators.sum Api) :=
  t.map (Exchange.left Api)

/-- A call of the adapter. -/
def managing (c : Call) (r : c.Answer) : Trace (Collaborators.sum Api) := [⟨.inr c, r⟩]

/-- What is noted between two calls to the adapters. -/
def notes (operation : String) (isOk : Bool) : Trace Collaborators :=
  [⟨.clock, (0 : Nat)⟩, ⟨.record (.providerCalled "azure" operation isOk 0), ()⟩,
    ⟨.clock, (0 : Nat)⟩]

/-- The account is put in place, and then the container is not. -/
def creatingTrace : Trace (Collaborators.sum Api) :=
  collaborating (⟨.clock, (0 : Nat)⟩ :: begun fresh (.azure default)) ++
    collaborating [⟨.addFinalizer fresh, .ok ()⟩] ++
    collaborating [⟨.clock, (0 : Nat)⟩] ++
    managing (.get logsIds.storageAccount storageVersion) (.error notFound) ++
    collaborating (notes "exists_bucket" true) ++
    managing (.put logsIds.storageAccount storageVersion accountBody) (.ok .null) ++
    managing (.put logsIds.container storageVersion (Container.body (Storage.tags default fresh)))
      (.error .transport) ++
    collaborating (notes "create_bucket" false ++
      [⟨.record (.reconcileFailed unreachable.reason 0), ()⟩])

/-- The record has been marked, and the release finds the account without its container. -/
def releasingTrace : Trace (Collaborators.sum Api) :=
  collaborating [⟨.clock, (0 : Nat)⟩] ++
    collaborating (begun doomed (.azure default) ++ [⟨.clock, (0 : Nat)⟩]) ++
    managing (.get logsIds.storageAccount storageVersion) (.ok .null) ++
    managing (.get logsIds.container storageVersion) (.error notFound) ++
    collaborating [⟨.clock, (0 : Nat)⟩,
      ⟨.record (.providerCalled "azure" "exists_bucket" true 0), ()⟩] ++
    collaborating [⟨.removeFinalizer doomed, .ok ()⟩] ++
    collaborating [⟨.clock, (0 : Nat)⟩, ⟨.record (.reconciled 0), ()⟩]

lemma after_creatingTrace :
    ((invoke "monitoring" "logs").substitute (adapted default)).After creatingTrace
      (.done (.error unreachable)) := by
  repeat apply Program.After.answered
  exact .here _

lemma after_releasingTrace :
    ((invoke "monitoring" "logs").substitute (adapted default)).After releasingTrace
      (.done (.ok .released)) := by
  repeat apply Program.After.answered
  exact .here _

/-- The estate without any resource or secret. -/
def nothing : Estate := ⟨.empty, []⟩

def accountOnly : Estate := nothing.put logsIds.storageAccount accountBody

lemma not_has_nothing (path : String) : ¬ nothing.Has path := nofun

lemma accountOnly_has_account : accountOnly.Has logsIds.storageAccount :=
  Estate.has_put.2 (.inl rfl)

lemma not_accountOnly_has_container : ¬ accountOnly.Has logsIds.container := by
  intro h
  rcases Estate.has_put.1 h with h | h
  · exact ResourceIds.container_ne_storageAccount _ h
  · exact not_has_nothing _ h

section Runs

variable {cluster : AzureContext} {s s' : Situation Estate}

lemma along_collaborating {t : Trace Collaborators}
    (h : Along (attended (unasked cluster)) s t s') :
    Along (supervised cluster) s (collaborating t) s' :=
  h.left fun _ _ _ _ h => h

lemma along_notes {operation : String} {isOk : Bool} :
    Along (attended (unasked cluster)) s (notes operation isOk) s :=
  .cons (Answers.attended rfl) (.cons (Answers.attended rfl)
    (.cons (Answers.attended rfl) (.nil s)))

lemma along_clock {t : Trace Collaborators} {now : Nat}
    (h : Along (attended (unasked cluster)) s t s') :
    Along (attended (unasked cluster)) s (⟨.clock, now⟩ :: t) s' :=
  .cons (Answers.attended rfl) h

lemma along_counted {event : Metrics.Event} {now : Nat} :
    Along (attended (unasked cluster)) s [⟨.clock, now⟩, ⟨.record event, ()⟩] s :=
  along_clock (.cons (Answers.attended rfl) (.nil s))

lemma along_managing {record : Option Bucket} {e e' : Estate} {c : Call} {r : c.Answer}
    (h : e.Answers c r e') :
    Along (supervised cluster) ⟨record, e⟩ (managing c r) ⟨record, e'⟩ := by
  have hanswered : supervised cluster ⟨record, e⟩ (.inr c) r ⟨record, e'⟩ :=
    ⟨.unmarked record, h⟩
  exact .cons hanswered (.nil _)

end Runs

lemma answers_notFound {e : Estate} {path version : String} (h : ¬ e.Has path) :
    e.Answers (.get path version) (.error notFound) e :=
  ⟨rfl, nofun, fun _ _ _ => h⟩

lemma creating_invocation :
    Invocation default "monitoring" "logs" ⟨some fresh, nothing⟩
      ⟨some finalized, accountOnly⟩ := by
  have hbegun : Along (supervised default) ⟨some fresh, nothing⟩
      (collaborating (⟨.clock, (0 : Nat)⟩ :: begun fresh (.azure default)))
      ⟨some fresh, nothing⟩ :=
    along_collaborating (along_clock (along_begun rfl))
  have hfinalized : Answers (unasked default) ⟨some fresh, nothing⟩ (.addFinalizer fresh)
      (.ok ()) ⟨some finalized, nothing⟩ := ⟨rfl, .inl rfl⟩
  have hput : nothing.Answers (.put logsIds.storageAccount storageVersion accountBody)
      (.ok .null) accountOnly := .inl rfl
  have hfailed : accountOnly.Answers
      (.put logsIds.container storageVersion (Container.body (Storage.tags default fresh)))
      (.error .transport) accountOnly := .inr ⟨nofun, rfl⟩
  exact ⟨creatingTrace, _, after_creatingTrace,
    ((((((hbegun.append (along_collaborating (.cons hfinalized.attended (.nil _)))).append
      (along_collaborating (along_clock (.nil _)))).append
      (along_managing (answers_notFound (not_has_nothing _)))).append
      (along_collaborating along_notes)).append
      (along_managing hput)).append
      (along_managing hfailed)).append
      (along_collaborating (along_notes.append (.cons (Answers.attended rfl) (.nil _))))⟩

lemma marks_finalized : Marks (some finalized) (some doomed) :=
  .marked "2025-01-01T00:00:00Z" finalized

lemma releasing_invocation :
    Invocation default "monitoring" "logs" ⟨some finalized, accountOnly⟩
      ⟨none, accountOnly⟩ := by
  have hmarked : attended (unasked default) ⟨some finalized, accountOnly⟩ .clock (0 : Nat)
      ⟨some doomed, accountOnly⟩ := ⟨some doomed, marks_finalized, rfl⟩
  have hbegun : Along (supervised default) ⟨some doomed, accountOnly⟩
      (collaborating (begun doomed (.azure default) ++ [⟨.clock, (0 : Nat)⟩]))
      ⟨some doomed, accountOnly⟩ :=
    along_collaborating ((along_begun rfl).append (along_clock (.nil _)))
  have hfound : accountOnly.Answers (.get logsIds.storageAccount storageVersion) (.ok .null)
      accountOnly := ⟨rfl, fun _ _ => accountOnly_has_account, nofun⟩
  have hremoved : Answers (unasked default) ⟨some doomed, accountOnly⟩
      (.removeFinalizer doomed) (.ok ()) ⟨none, accountOnly⟩ := ⟨rfl, .inl rfl⟩
  exact ⟨releasingTrace, _, after_releasingTrace,
    ((((((along_collaborating (.cons hmarked (.nil _))).append hbegun).append
      (along_managing hfound)).append
      (along_managing (answers_notFound not_accountOnly_has_container))).append
      (along_collaborating along_counted)).append
      (along_collaborating (.cons hremoved.attended (.nil _)))).append
      (along_collaborating along_counted)⟩

/-- The container cannot be created, the record is marked, and the release finds no bucket. -/
def neglectfulHistory : History (Invocation default "monitoring" "logs") where
  situation
    | 0 => ⟨some fresh, nothing⟩
    | 1 => ⟨some finalized, accountOnly⟩
    | _ => ⟨none, accountOnly⟩
  next
    | 0 => creating_invocation
    | 1 => releasing_invocation
    | _ + 2 => ⟨[], _, .here _, .nil _⟩

lemma condemns_fresh :
    ∀ b ∈ some fresh, Condemns "logs" "monitoring" (terms b) := by
  rintro _ ⟨⟩
  exact ⟨rfl, rfl, rfl⟩

lemma isHeld_finalized : IsHeld (some finalized) := isHeld_some.2 (by decide)

/-- What earlier invocations created is not always gone with the finalizer. -/
theorem account_left_behind :
    ¬ ∀ (history : History (Invocation default "monitoring" "logs")) (j n : Nat),
      (history.situation 0).provider = nothing →
      (∀ b ∈ (history.situation 0).record, Condemns "logs" "monitoring" (terms b)) →
      j < n → IsHeld (history.situation j).record →
      ¬ IsHeld (history.situation (j + 1)).record →
      (history.situation n).provider.IsClean logsIds "monitoring" := by
  intro h
  have hclean := h neglectfulHistory 1 2 rfl condemns_fresh (by decide) isHeld_finalized
    not_isHeld_none
  exact hclean.account accountOnly_has_account

theorem neglectfulHistory_clean_iff :
    (neglectfulHistory.situation 2).provider.IsClean logsIds "monitoring" ↔
      (neglectfulHistory.situation 1).provider.IsComplete logsIds ∨
        (neglectfulHistory.situation 1).provider.IsClean logsIds "monitoring" :=
  clean_iff_complete_or_clean neglectfulHistory condemns_fresh (by decide) isHeld_finalized
    not_isHeld_none

end BucketOperator.Azure
