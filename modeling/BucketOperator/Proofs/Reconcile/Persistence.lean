import BucketOperator.Proofs.Bucket.Patching
import BucketOperator.Proofs.Kubernetes.FinalizerLists
import BucketOperator.Proofs.Kubernetes.Writing
import BucketOperator.Proofs.Program.Layer
import BucketOperator.Proofs.Reconcile.Phases

/-!
# What a reconciliation writes back

The record of a reconciliation is a document of the control plane, which nobody else writes. Once
the bucket is in place, the document stands for the record with the finalizer and the status, and
another reconciliation finds nothing to write.
-/

namespace BucketOperator

open Json Kubernetes
open Program (Returns)

namespace Bucket

/-- Where a record is kept. -/
def path (bucket : Bucket) : String := kind.collectionOf bucket ++ "/" ++ bucket.metadata.anyName

/-- The record with the finalizer appended to the others, unless it is among them. -/
def finalized (bucket : Bucket) : Bucket :=
  bucket.refinalize (bucket.metadata.finalizers ++
    if bucket.hasFinalizer finalizer then [] else [finalizer])

/-- The record of a bucket that is in place. -/
def settled (bucket : Bucket) : Bucket :=
  { bucket.finalized with status := some bucket.readyStatus }

/-! ### The store -/

section Store

variable {bucket : Bucket} {document : Json} {patience : Nat}

/-- The finalizers of a record are replaced in its document. -/
lemma ensures_patchFinalizers (hpath : IsPathText bucket.path) (finalizers : List String) :
    (kind.patchFinalizers patience bucket finalizers).Ensures (keeping Bucket.read bucket.path)
      (fun _ _ => True)
      (Returns (fun s outcome => Applied (·.mergePatch (finalizersPatch finalizers)) outcome
        document s) fun _ => True) document := by
  refine ensures_persist_patch ?_ ?_
  · rwa [String.append_empty]
  · intro d
    exact if_pos (String.append_empty)

/-- The status of a record is merged into its document. -/
lemma ensures_patchStatus (hpath : IsPathText bucket.path) (status : BucketStatus) :
    (Bucket.patchStatus patience bucket status).Ensures (keeping Bucket.read bucket.path)
      (fun _ _ => True)
      (Returns (fun s outcome => Applied (·.mergePatch (statusPatch status)) outcome document s)
        fun _ => True) document := by
  refine ensures_persist_patch (hpath.append (isPathText_of_all rfl)) ?_
  intro d
  have hne : bucket.path ++ "/status" ≠ bucket.path := by
    intro h
    simpa [String.toList_append] using congrArg String.toList h
  exact (if_neg hne).trans (if_pos rfl)

/-- The record that is loaded is the one the document stands for. -/
lemma ensures_load {namespaceName name : String}
    (hpath : IsPathText (buckets namespaceName ++ "/" ++ name)) :
    (Bucket.load patience namespaceName name).Ensures
      (keeping Bucket.read (buckets namespaceName ++ "/" ++ name)) (fun _ c => ¬ IsPatch c)
      (Returns (fun s outcome => s = document ∧
        ∀ b, outcome = .ok (some b) → Bucket.ofJson? document = some b) (· = document)) document :=
  ensures_persist_get hpath

end Store

/-! ### Documents of settled records -/

section Settling

variable {bucket : Bucket} {document : Json}

lemma finalized_of_hasFinalizer (h : bucket.hasFinalizer finalizer = true) :
    bucket.finalized = bucket := by
  rw [finalized, if_pos h]
  obtain ⟨⟨name, generateName, namespaceName, finalizerList, deletionTimestamp⟩, spec, status⟩ :=
    bucket
  cases finalizerList with
  | none => simp [hasFinalizer, Metadata.finalizers] at h
  | some list => simp [refinalize, Metadata.finalizers]

lemma hasFinalizer_settled : bucket.settled.hasFinalizer finalizer = true := by
  change List.contains (_ ++ _) finalizer = true
  split
  next h => rwa [List.append_nil]
  next h => simp

/-- Repeated patches of the finalizers are as good as one. -/
lemma Represents.refinalized_iterate (h : Represents document bucket) (finalizers : List String)
    {n : Nat} (hn : 0 < n) :
    Represents ((·.mergePatch (finalizersPatch finalizers))^[n] document)
        (bucket.refinalize finalizers) ∧
      AgreeElsewhere document ((·.mergePatch (finalizersPatch finalizers))^[n] document) := by
  induction n, hn using Nat.le_induction with
  | base => exact ⟨h.refinalized finalizers, agreeElsewhere_finalizersPatch⟩
  | succ n _ ih =>
    rw [Function.iterate_succ_apply']
    exact ⟨ih.1.refinalized finalizers, ih.2.trans agreeElsewhere_finalizersPatch⟩

lemma Represents.restated_iterate (h : Represents document bucket) (status : BucketStatus)
    (hid : status.bucketId.isSome = true)
    (hrole : status.roleAssignmentId = none → bucket.status.bind (·.roleAssignmentId) = none)
    {n : Nat} (hn : 0 < n) :
    Represents ((·.mergePatch (statusPatch status))^[n] document)
        { bucket with status := some status } ∧
      AgreeElsewhere document ((·.mergePatch (statusPatch status))^[n] document) := by
  induction n, hn using Nat.le_induction with
  | base => exact ⟨h.restated hid hrole, agreeElsewhere_statusPatch⟩
  | succ n _ ih =>
    rw [Function.iterate_succ_apply']
    exact ⟨ih.1.restated hid id, ih.2.trans agreeElsewhere_statusPatch⟩

end Settling

end Bucket

namespace Reconcile

/-! ### Reconciliations of stored records -/

/-- How the calls of a reconciliation are made when its records are in the control plane. -/
def stored (patience : Nat) : (c : Call) → Program (Collaborators.sum World) c.Answer
  | .load namespaceName name => (Bucket.load patience namespaceName name).right
  | .addFinalizer bucket => (Bucket.addFinalizer patience bucket).right
  | .removeFinalizer bucket => (Bucket.removeFinalizer patience bucket).right
  | .patchStatus bucket status => (Bucket.patchStatus patience bucket status).right
  | .resolve => .ask (.inl .resolve) .done
  | .services cluster => .ask (.inl (.services cluster)) .done
  | .doesExist bucket => .ask (.inl (.doesExist bucket)) .done
  | .change c bucket => .ask (.inl (.change c bucket)) .done
  | .clock => .ask (.inl .clock) .done
  | .record event => .ask (.inl (.record event)) .done

/-- One reconciliation of a record, by the name it has in the control plane. -/
def reconcileStored (patience : Nat) (bucket : Bucket) :
    Program (Collaborators.sum World) (Except Failure Outcome) :=
  (ExceptT.run (reconcile (bucket.metadata.namespaceName.getD "")
    bucket.metadata.anyName)).substitute (stored patience)

/-- The control plane keeps the document of a record. The other collaborators do not write it, and
answer as they like. -/
def solitary (path : String) : Behaviour (Collaborators.sum World) Json
  | document, .inl _, _, document' => document' = document
  | document, .inr c, r, document' => keeping Bucket.read path document c r document'

/-- What the calls of a reconciliation do to the document of the record. -/
def writing : Behaviour Collaborators Json
  | document, .load _ _, r, document' =>
    document' = document ∧ ∀ b, r = .ok (some b) → Bucket.ofJson? document = some b
  | document, .addFinalizer b, r, document' =>
    match withFinalizer? b.metadata.finalizers Bucket.finalizer with
    | some finalizers => Applied (·.mergePatch (finalizersPatch finalizers)) r document document'
    | none => document' = document
  | document, .patchStatus _ status, r, document' =>
    Applied (·.mergePatch (Bucket.statusPatch status)) r document document'
  | _, .removeFinalizer _, _, _ => True
  | document, _, _, document' => document' = document

/-- The calls that are asked about a record: nothing is written but what it lacks. -/
def IsCallFor (bucket : Bucket) : Call → Prop
  | .load namespaceName name =>
    namespaceName = bucket.metadata.namespaceName.getD "" ∧ name = bucket.metadata.anyName
  | .addFinalizer b => b = bucket
  | .removeFinalizer b => b = bucket ∧ bucket.isBeingDeleted = true
  | .patchStatus b _ => b = bucket ∧ bucket.status ≠ some bucket.readyStatus
  | _ => True

/-- The bucket of a record is in place, and the document says so. -/
structure Settled (bucket : Bucket) (before after : Json) : Prop where
  alive : bucket.isBeingDeleted = false
  represents : Bucket.Represents after bucket.settled
  agree : Bucket.AgreeElsewhere before after

section Writing

variable {bucket : Bucket} {document s : Json} {provider : CloudProvider}

/-- A reconciliation only makes calls for its record, and one that says that the bucket is in place
has settled the document. -/
def Settles (bucket : Bucket) (document : Json) (steps : Steps Outcome) (s : Json) : Prop :=
  steps.run.Ensures writing (fun _ c => IsCallFor bucket c)
    (fun s o => o = some (.ok .ready) → Settled bucket document s) s

lemma quiet_writing (A : Json → Prop) : Quiet writing (fun _ c => IsCallFor bucket c) A := by
  intro s c hs hc
  cases c with
  | clock => exact ⟨trivial, by rintro _ _ rfl; exact hs⟩
  | record e => exact ⟨trivial, by rintro _ _ rfl; exact hs⟩
  | _ => cases hc

/-- Whoever is asked at the provider does not write the record. -/
lemma settles_observe_bind {α : Type} {c : Call} {outcomeOf : c.Answer → Except Failure α}
    {operation : String} {f : α → Steps Outcome} (hc : IsCallFor bucket c)
    (hcall : ∀ s r s', writing s c r s' → s' = s) (hf : ∀ a, Settles bucket document (f a) s) :
    Settles bucket document
      (Steps.observe provider operation (.ask c fun r => .done (outcomeOf r)) >>= f) s := by
  refine ensures_observe_bind (A := (· = s)) (R := fun _ => (· = s)) (quiet_writing _)
    (fun _ _ => hc) ?_ (fun _ => quiet_writing _) ?_ ?_ rfl
  · rintro d r d' rfl h
    exact hcall d r d' h
  · rintro r failure d - rfl
    simp
  · rintro r a d - rfl
    exact hf a

lemma settles_change_bind {c : Change} {f : Unit → Steps Outcome}
    (hf : Settles bucket document (f ()) s) :
    Settles bucket document (Steps.change provider c bucket >>= f) s :=
  settles_observe_bind trivial (fun _ _ _ h => h) fun _ => hf

/-- Any other call that does not write is followed by more steps unless it fails. -/
lemma settles_ask_bind {α : Type} {c : Call} {outcomeOf : c.Answer → Except Failure α}
    {f : α → Steps Outcome} (hc : IsCallFor bucket c)
    (hf : ∀ r a s', writing s c r s' → outcomeOf r = .ok a → Settles bucket document (f a) s') :
    Settles bucket document ((ExceptT.mk (.ask c fun r => .done (outcomeOf r)) : Steps α) >>= f)
      s := by
  refine ensures_ask_bind hc ?_ hf
  rintro r failure s' _ _
  simp

/-! ### The phases -/

lemma settles_letGo (hdeleted : bucket.isBeingDeleted = true) :
    Settles bucket document (letGo bucket) s := by
  refine settles_ask_bind ⟨rfl, hdeleted⟩ ?_
  intro r a s' _ _ h
  cases h

lemma settles_release (hdeleted : bucket.isBeingDeleted = true) :
    Settles bucket document (release provider bucket) s := by
  rw [release_eq]
  refine settles_observe_bind trivial (fun _ _ _ h => h) ?_
  intro found
  split
  · refine settles_change_bind ?_
    refine @settles_ask_bind _ _ _ _ (.record (.bucketDeleted _)) (fun _ => .ok ()) _ trivial ?_
    intro _ _ s' _ _
    split
    · exact settles_change_bind (settles_letGo hdeleted)
    · exact settles_letGo hdeleted
  · exact settles_letGo hdeleted

/-- The document as it is once the finalizer is on the record. -/
structure HasBeenFinalized (bucket : Bucket) (before after : Json) : Prop where
  alive : bucket.isBeingDeleted = false
  represents : Bucket.Represents after bucket.finalized
  agree : Bucket.AgreeElsewhere before after

lemma settles_report (h : HasBeenFinalized bucket document s) :
    Settles bucket document (report bucket) s := by
  unfold report
  split
  next hstatus =>
    refine settles_ask_bind ⟨rfl, hstatus⟩ ?_
    rintro r ⟨⟩ s' ⟨n, rfl, hn⟩ rfl _
    obtain ⟨hrepresents, hagree⟩ := h.represents.restated_iterate bucket.readyStatus rfl
      id (hn rfl)
    exact ⟨h.alive, hrepresents, h.agree.trans hagree⟩
  next hstatus =>
    intro _
    refine ⟨h.alive, ?_, h.agree⟩
    have hsame : bucket.settled = bucket.finalized := by
      rw [Bucket.settled, ← not_not.1 hstatus]
      rfl
    rw [hsame]
    exact h.represents

lemma settles_place {found : Bool} (h : HasBeenFinalized bucket document s) :
    Settles bucket document (place provider bucket found) s := by
  refine settles_change_bind ?_
  refine settles_change_bind ?_
  split
  · exact settles_change_bind (settles_report h)
  · exact settles_report h

/-- Once the finalizer has been added, the document says so. -/
lemma finalized_of_addFinalizer (hdocument : Bucket.Represents document bucket)
    (alive : bucket.isBeingDeleted = false)
    (h : writing document (.addFinalizer bucket) (.ok ()) s) :
    HasBeenFinalized bucket document s := by
  cases hw : withFinalizer? bucket.metadata.finalizers Bucket.finalizer with
  | none =>
    simp only [writing, hw] at h
    subst h
    have hpresent : bucket.hasFinalizer Bucket.finalizer = true :=
      List.contains_iff_mem.2 (withFinalizer?_eq_none_iff.1 hw)
    refine ⟨alive, ?_, .refl _⟩
    rw [Bucket.finalized_of_hasFinalizer hpresent]
    exact hdocument
  | some finalizers =>
    simp only [writing, hw] at h
    obtain ⟨habsent, rfl⟩ := withFinalizer?_eq_some_iff.1 hw
    obtain ⟨n, rfl, hn⟩ := h
    obtain ⟨hrepresents, hagree⟩ := hdocument.refinalized_iterate
      (bucket.metadata.finalizers ++ [Bucket.finalizer]) (hn rfl)
    refine ⟨alive, ?_, hagree⟩
    have hmissing : ¬ bucket.hasFinalizer Bucket.finalizer = true :=
      mt List.contains_iff_mem.1 habsent
    rw [Bucket.finalized, if_neg hmissing]
    exact hrepresents

lemma settles_converge (hdocument : Bucket.Represents document bucket)
    (alive : bucket.isBeingDeleted = false) :
    Settles bucket document (converge provider bucket) document := by
  rw [converge_eq]
  refine settles_ask_bind rfl ?_
  rintro r ⟨⟩ s' h rfl
  refine settles_observe_bind trivial (fun _ _ _ h => h) ?_
  intro found
  exact settles_place (finalized_of_addFinalizer hdocument alive h)

/-- Whatever the others answer, a reconciliation settles the document or does not say so. -/
theorem settles_reconcile (hdocument : Bucket.Represents document bucket) :
    Settles bucket document
      (reconcile (bucket.metadata.namespaceName.getD "") bucket.metadata.anyName) document := by
  rw [reconcile_eq]
  refine settles_ask_bind ⟨rfl, rfl⟩ ?_
  rintro r (_ | b) s' ⟨rfl, hread⟩ rfl
  · intro h
    cases h
  cases (hread b rfl).symm.trans hdocument.reads
  refine settles_ask_bind trivial ?_
  rintro r cluster s' rfl -
  refine settles_ask_bind trivial ?_
  rintro r ⟨⟩ s' rfl -
  split
  next hdeleted => exact settles_release hdeleted
  next hdeleted => exact settles_converge hdocument (Bool.eq_false_iff.2 hdeleted)

end Writing

/-! ### Stored records -/

section Stored

variable {bucket : Bucket} {document document' : Json} {patience : Nat}

/-- The store does to the document what its calls are to do. -/
lemma ensures_stored (hpath : IsPathText bucket.path) {c : Call} (hc : IsCallFor bucket c) :
    (stored patience c).Ensures (solitary bucket.path) (fun _ _ => True)
      (Returns (fun s r => writing document c r s) fun _ => True) document := by
  cases c with
  | load namespaceName name =>
    obtain ⟨rfl, rfl⟩ := hc
    exact ((Bucket.ensures_load hpath).mono (fun _ _ _ => trivial)
      (by rintro s (_ | r) h; exacts [trivial, h])).right
  | addFinalizer b =>
    cases hc
    refine Program.Ensures.right ?_
    unfold Bucket.addFinalizer Kind.addFinalizer
    simp only [writing, show Bucket.kind.metadata bucket = bucket.metadata from rfl]
    cases withFinalizer? bucket.metadata.finalizers Bucket.finalizer with
    | none => exact rfl
    | some finalizers => exact Bucket.ensures_patchFinalizers hpath finalizers
  | removeFinalizer b =>
    refine Program.ensures_of_forall (fun _ _ => trivial) ?_
    rintro s (_ | r)
    · trivial
    · trivial
  | patchStatus b status =>
    obtain ⟨rfl, -⟩ := hc
    exact (Bucket.ensures_patchStatus hpath status).right
  | _ => exact ⟨trivial, fun _ _ h => h⟩

/-- A call that asks nobody to patch anything. -/
def IsHarmless : (Collaborators.sum World).Call → Prop
  | .inl _ => True
  | .inr c => ¬ IsPatch c

/-- The store patches nothing for a record that lacks nothing. -/
lemma ensures_stored_of_settled (hpath : IsPathText bucket.path)
    (alive : bucket.isBeingDeleted = false)
    (hfinalizer : bucket.hasFinalizer Bucket.finalizer = true)
    (hstatus : bucket.status = some bucket.readyStatus) {c : Call} (hc : IsCallFor bucket c) :
    (stored patience c).Ensures (solitary bucket.path) (fun _ c => IsHarmless c)
      (Returns (fun s r => writing document c r s) fun _ => True) document := by
  cases c with
  | load namespaceName name =>
    obtain ⟨rfl, rfl⟩ := hc
    exact ((Bucket.ensures_load hpath).mono (fun _ _ h => h)
      (by rintro s (_ | r) h; exacts [trivial, h])).right
  | addFinalizer b =>
    cases hc
    have hpresent : withFinalizer? bucket.metadata.finalizers Bucket.finalizer = none :=
      withFinalizer?_eq_none_iff.2 (List.contains_iff_mem.1 hfinalizer)
    simp only [stored, Bucket.addFinalizer, Kind.addFinalizer, writing, hpresent,
      show Bucket.kind.metadata bucket = bucket.metadata from rfl]
    exact rfl
  | removeFinalizer b =>
    obtain ⟨-, hdeleted⟩ := hc
    rw [alive] at hdeleted
    cases hdeleted
  | patchStatus b status => exact absurd hstatus hc.2
  | _ => exact ⟨trivial, fun _ _ h => h⟩

/-- When a reconciliation of a record says that its bucket is in place, the document has become that
of the record with the finalizer and the status, and is otherwise as it was. Another reconciliation
then patches nothing, whatever it is answered. -/
theorem ready_is_persisted {t : Trace (Collaborators.sum World)}
    (hdocument : Bucket.Represents document bucket) (hpath : IsPathText bucket.path)
    (hready : (reconcileStored patience bucket).Yields t (.ok .ready))
    (hworld : Along (solitary bucket.path) document t document') :
    Bucket.Represents document' bucket.settled ∧ Bucket.AgreeElsewhere document document' ∧
      ∀ patience', (reconcileStored patience' bucket).Ensures (solitary bucket.path)
        (fun _ c => IsHarmless c) (fun _ _ => True) document' := by
  have hsettles : (reconcileStored patience bucket).Ensures (solitary bucket.path) (fun _ _ => True)
      (fun s o => o = some (.ok .ready) → Settled bucket document s) document := by
    refine (settles_reconcile hdocument).substitute ?_
    intro s c hc
    refine (ensures_stored hpath hc).mono (fun _ _ h => h) ?_
    rintro s' (_ | r) h
    · rintro ⟨⟩
    · exact h
  obtain ⟨alive, hrepresents, hagree⟩ := hsettles.along hready hworld rfl
  refine ⟨hrepresents, hagree, ?_⟩
  -- The next reconciliation loads the settled record, which lacks nothing.
  intro patience'
  refine ((settles_reconcile hrepresents).mono (fun _ _ h => h)
    fun _ _ _ => trivial).substitute ?_
  intro s c hc
  refine (ensures_stored_of_settled (show IsPathText bucket.settled.path from hpath) alive
    Bucket.hasFinalizer_settled rfl hc).mono (fun _ _ h => h) ?_
  rintro s' (_ | r) h
  · trivial
  · exact h

/-! ### A record without a status -/

/-- The record of a bucket that is not in place yet, with a finalizer of somebody else. -/
def pending : Bucket where
  metadata :=
    { name := some "logs"
      generateName := none
      namespaceName := some "monitoring"
      finalizerList := some ["example.com/backup"]
      deletionTimestamp := none }
  spec :=
    { name := "logs"
      expirationDays := none
      reclaimPolicy := .retain
      accessRole := none
      tags := [] }
  status := some ⟨false, none, none⟩

def pendingDocument : Json :=
  .object [
    ("metadata", .object [
      ("finalizers", .strings ["example.com/backup"]),
      ("name", .string "logs"),
      ("namespace", .string "monitoring")]),
    ("spec", .object [("name", .string "logs")]),
    ("status", .object [("observedBy", .string "somebody")])]

/-- Everybody does as asked. -/
def obliging (path : String) :
    (c : (Collaborators.sum World).Call) → Json → (Collaborators.sum World).Answer c × Json
  | .inl (.load ..), d => (.ok none, d)
  | .inl .resolve, d => (.ok (.aws default), d)
  | .inl (.services _), d => (.ok (), d)
  | .inl (.addFinalizer _), d => (.ok (), d)
  | .inl (.removeFinalizer _), d => (.ok (), d)
  | .inl (.patchStatus ..), d => (.ok (), d)
  | .inl (.doesExist _), d => (.ok true, d)
  | .inl (.change ..), d => (.ok (), d)
  | .inl .clock, d => ((0 : Nat), d)
  | .inl (.record _), d => ((), d)
  | .inr (.kubernetes request), d =>
    (.answered 200 (.json (patched path request d)), patched path request d)
  | .inr (.http _), d => (none, d)
  | .inr (.s3 ..), d => (.error .dispatch, d)
  | .inr (.iam ..), d => (.error .dispatch, d)
  | .inr (.sleep _), d => ((), d)
  | .inr .clock, d => ((0 : Nat), d)
  | .inr (.readFile _), d => (.error "", d)
  | .inr (.record _), d => ((), d)

lemma solitary_of_obliging {path : String} {s s' : Json} {c : (Collaborators.sum World).Call}
    {r : (Collaborators.sum World).Answer c} (h : (r, s') = obliging path c s) :
    solitary path s c r s' := by
  rcases c with c | c
  · cases c <;> cases h <;> rfl
  · cases c with
    | kubernetes request =>
      cases h
      refine ⟨.inl rfl, ?_⟩
      intro haction _ body hbody
      cases hbody
      simp [patched, haction, Body.tree?]
    | _ =>
      cases h
      rfl

lemma represents_pending : Bucket.Represents pendingDocument pending := by
  have hvalue : (Tree.ofJson pendingDocument).value? = some pendingDocument := rfl
  exact ⟨isOrdered_of_value? hvalue, ⟨_, rfl⟩, rfl⟩

/-- The record of a bucket that was not in place is reconciled and then left alone. -/
theorem pending_is_persisted : ∃ t document',
    (reconcileStored 1 pending).Yields t (.ok .ready) ∧
      Along (solitary pending.path) pendingDocument t document' ∧
      Bucket.Represents document' pending.settled ∧
      Bucket.AgreeElsewhere pendingDocument document' ∧
      ∀ patience', (reconcileStored patience' pending).Ensures (solitary pending.path)
        (fun _ c => IsHarmless c) (fun _ _ => True) document' := by
  have hrun : ((reconcileStored 1 pending).run (obliging pending.path) pendingDocument).1 =
      some (.ok .ready) := by
    decide +kernel
  obtain ⟨t, ht, hworld⟩ := Program.exists_yields_of_run hrun
  have hsolitary := hworld.mono fun _ _ _ _ h => solitary_of_obliging h
  have hpath : IsPathText pending.path := isPathText_of_all (by decide +kernel)
  exact ⟨t, _, ht, hsolitary, ready_is_persisted represents_pending hpath ht hsolitary⟩

end Stored

end Reconcile

end BucketOperator
