import BucketOperator.Bucket.Store
import BucketOperator.Proofs.Kubernetes.Patching

/-!
# Patched records

What a record's document stands for after its finalizers or its status have been patched: the
record with just that changed. Fields of the status that the operator does not know stay as they
are.
-/

namespace BucketOperator

open Json Kubernetes
open Json.Tree (readMember fieldsOf)

/-! ### Statuses -/

namespace BucketStatus

/-- A status as it is read off members that are looked up by name. -/
structure IsReadFrom (look : String → Option Json) (status : BucketStatus) : Prop where
  ready : ((look "bucketReady").elim (some false) fun v => (Tree.ofJson v).readBool) =
    some status.ready
  bucketId : readMember Tree.readString (look "bucketID") = some status.bucketId
  roleAssignmentId : readMember Tree.readString (look "bucketAzureRoleAssignmentID") =
    some status.roleAssignmentId

variable {value : Json} {members : List (String × Json)} {status : BucketStatus} {key : String}

lemma read_ofJson_iff (hsorted : members.Pairwise fun a b => a.1 < b.1) :
    BucketStatus.read (Tree.ofJson (.object members)) = some status ↔
      status.IsReadFrom (Json.object members).get? := by
  simp only [BucketStatus.read, Tree.closedFields?_ofJson hsorted, Option.bind_eq_bind,
    Option.bind_some, Option.bind_eq_some_iff, Option.pure_def, Option.some.injEq]
  simp (disch := decide) only [Tree.optional_fieldsOf, Tree.orElse_fieldsOf]
  constructor
  · rintro ⟨ready, hready, bucketId, hbucketId, roleAssignmentId, hroleAssignmentId, rfl⟩
    exact ⟨hready, hbucketId, hroleAssignmentId⟩
  · intro h
    exact ⟨_, h.ready, _, h.bucketId, _, h.roleAssignmentId, rfl⟩

/-- A status is merged member by member; what it leaves out stays. -/
lemma get?_mergePatch_toJson : (value.mergePatch status.toJson).get? key =
    if key = "bucketReady" then some (.bool status.ready)
    else if key = "bucketID" then (status.bucketId.map Json.string).or (value.get? key)
    else if key = "bucketAzureRoleAssignmentID" then
      (status.roleAssignmentId.map Json.string).or (value.get? key)
    else value.get? key := by
  obtain ⟨ready, bucketId, roleAssignmentId⟩ := status
  cases bucketId <;> cases roleAssignmentId <;>
    simp only [toJson, List.nil_append, List.cons_append, mergePatch_cons, mergePatch_of_flat,
      set_mergePatch_nil, ne_eq, reduceCtorEq, not_false_eq_true, implies_true, get?_set,
      Option.map_some, Option.map_none, Option.some_or, Option.none_or]
  all_goals grind

lemma isOrdered_toJson (status : BucketStatus) : status.toJson.IsOrdered := by
  obtain ⟨ready, bucketId, roleAssignmentId⟩ := status
  cases bucketId <;> cases roleAssignmentId <;> refine .object (List.pairwise_map.1 ?_) ?_
  all_goals simp only [List.nil_append, List.cons_append, List.map_cons, List.map_nil]
  any_goals decide
  all_goals simp [IsOrdered.bool, IsOrdered.string]

/-- A status that names the bucket is what is read after it was merged, provided that a role
assignment it leaves out was not there. -/
lemma read_mergePatch_toJson (hvalue : value.IsOrdered) (hid : status.bucketId.isSome = true)
    (hrole : status.roleAssignmentId = none →
      readMember Tree.readString (value.get? "bucketAzureRoleAssignmentID") = some none) :
    BucketStatus.read (Tree.ofJson (value.mergePatch status.toJson)) = some status := by
  have hordered := (isOrdered_toJson status).mergePatch hvalue
  obtain ⟨merged, hmerged⟩ : ∃ merged, value.mergePatch status.toJson = .object merged :=
    exists_mergePatch_eq
  obtain ⟨id, hid⟩ := Option.isSome_iff_exists.1 hid
  rw [hmerged] at hordered ⊢
  rw [read_ofJson_iff hordered.pairwise, ← hmerged]
  have hstring : ∀ text : String,
      readMember Tree.readString (some (Json.string text)) = some (some text) := fun _ => rfl
  constructor
  · simp [get?_mergePatch_toJson, Tree.ofJson, Tree.readBool]
  · simp [get?_mergePatch_toJson, hid, hstring]
  · cases h : status.roleAssignmentId with
    | none => simpa [get?_mergePatch_toJson, h] using hrole h
    | some role => simp [get?_mergePatch_toJson, h, hstring]

/-- A status that names no role assignment was read from a value that holds none. -/
lemma readMember_of_read (hvalue : value.IsOrdered)
    (h : BucketStatus.read (Tree.ofJson value) = some status)
    (hrole : status.roleAssignmentId = none) :
    readMember Tree.readString (value.get? "bucketAzureRoleAssignmentID") = some none := by
  cases value with
  | object members =>
    rw [read_ofJson_iff hvalue.pairwise] at h
    rw [h.roleAssignmentId, hrole]
  | _ => rfl

end BucketStatus

/-! ### Records -/

namespace Bucket

/-- A record as it is read off members that are looked up by name. -/
structure IsReadFrom (look : String → Option Json) (bucket : Bucket) : Prop where
  metadata : ((look "metadata").bind fun v => Metadata.read (Tree.ofJson v)) = some bucket.metadata
  spec : ((look "spec").bind fun v => BucketSpec.read (Tree.ofJson v)) = some bucket.spec
  status : readMember BucketStatus.read (look "status") = some bucket.status

lemma ofJson?_object_iff {members : List (String × Json)} {bucket : Bucket}
    (hsorted : members.Pairwise fun a b => a.1 < b.1) :
    Bucket.ofJson? (.object members) = some bucket ↔
      bucket.IsReadFrom (Json.object members).get? := by
  have hread : Bucket.ofJson? (.object members) =
      let fields := fieldsOf ["metadata", "spec", "status"] members
      (Tree.Fields.required fields "metadata" Metadata.read).bind fun metadata =>
        (Tree.Fields.required fields "spec" BucketSpec.read).bind fun spec =>
          (Tree.Fields.optional fields "status" BucketStatus.read).bind fun status =>
            some ⟨metadata, spec, status⟩ := by
    unfold Bucket.ofJson? Bucket.read
    rw [Tree.closedFields?_ofJson hsorted]
    rfl
  simp only [hread, Option.bind_eq_some_iff, Option.some.injEq]
  simp (disch := decide) only [Tree.optional_fieldsOf, Tree.required_fieldsOf]
  constructor
  · rintro ⟨metadata, hmetadata, spec, hspec, status, hstatus, rfl⟩
    exact ⟨hmetadata, hspec, hstatus⟩
  · intro h
    exact ⟨_, h.metadata, _, h.spec, _, h.status, rfl⟩

/-- A record with its finalizers replaced. -/
def refinalize (bucket : Bucket) (finalizers : List String) : Bucket :=
  { bucket with metadata.finalizerList := some finalizers }

/-- A document as it is stored for a record. -/
structure Represents (document : Json) (bucket : Bucket) : Prop where
  isOrdered : document.IsOrdered
  isObject : ∃ members, document = .object members
  reads : Bucket.ofJson? document = some bucket

variable {document : Json} {bucket : Bucket}

lemma Represents.isReadFrom (h : Represents document bucket) : bucket.IsReadFrom document.get? := by
  obtain ⟨members, rfl⟩ := h.isObject
  exact (ofJson?_object_iff h.isOrdered.pairwise).1 h.reads

lemma Represents.of_isReadFrom (hordered : document.IsOrdered)
    (hobject : ∃ members, document = .object members) (h : bucket.IsReadFrom document.get?) :
    Represents document bucket := by
  refine ⟨hordered, hobject, ?_⟩
  obtain ⟨members, rfl⟩ := hobject
  exact (ofJson?_object_iff hordered.pairwise).2 h

/-! ### Patches of the finalizers -/

lemma isOrdered_finalizersPatch (finalizers : List String) :
    (finalizersPatch finalizers).IsOrdered := by
  refine .object (List.pairwise_singleton _ _) ?_
  intro e he
  cases List.mem_singleton.1 he
  refine .object (List.pairwise_singleton _ _) ?_
  intro e he
  cases List.mem_singleton.1 he
  exact isOrdered_strings finalizers

/-- A patch of the finalizers changes the finalizers of the record and nothing else. -/
theorem Represents.refinalized (h : Represents document bucket) (finalizers : List String) :
    Represents (document.mergePatch (finalizersPatch finalizers))
      (bucket.refinalize finalizers) := by
  obtain ⟨metadata, hmetadata, hread⟩ := Option.bind_eq_some_iff.1 h.isReadFrom.metadata
  obtain ⟨members, rfl⟩ := Metadata.exists_object_of_read hread
  refine .of_isReadFrom ((isOrdered_finalizersPatch finalizers).mergePatch h.isOrdered)
    exists_mergePatch_eq ?_
  have hsorted := (h.isOrdered.get? hmetadata).pairwise
  have hpatched := (h.isOrdered.get? hmetadata).set "finalizers" (isOrdered_strings finalizers)
  rw [Metadata.read_ofJson_iff hsorted] at hread
  rw [mergePatch_finalizersPatch, hmetadata, Option.getD_some]
  constructor
  · simp only [get?_set, if_true, Option.bind_some]
    refine (Metadata.read_ofJson_iff hpatched.pairwise).2 (hread.refinalized ?_ ?_)
    · exact (@get?_set (.object members) _ _ _).trans (if_pos rfl)
    · intro n hn
      exact (@get?_set (.object members) _ _ _).trans (if_neg hn)
  · simpa [refinalize] using h.isReadFrom.spec
  · simpa [refinalize] using h.isReadFrom.status

/-! ### Patches of the status -/

lemma mergePatch_statusPatch {status : BucketStatus} :
    document.mergePatch (statusPatch status) =
      document.set "status" (((document.get? "status").getD .null).mergePatch status.toJson) :=
  mergePatch_singleton (by rintro ⟨⟩)

lemma isOrdered_statusPatch (status : BucketStatus) : (statusPatch status).IsOrdered := by
  refine .object (List.pairwise_singleton _ _) ?_
  intro e he
  cases List.mem_singleton.1 he
  exact BucketStatus.isOrdered_toJson status

/-- A patch of the status with one that names the bucket, and a role assignment if the record does,
changes the status of the record and nothing else. -/
theorem Represents.restated {status : BucketStatus} (h : Represents document bucket)
    (hid : status.bucketId.isSome = true)
    (hrole : status.roleAssignmentId = none → bucket.status.bind (·.roleAssignmentId) = none) :
    Represents (document.mergePatch (statusPatch status))
      { bucket with status := some status } := by
  refine .of_isReadFrom ((isOrdered_statusPatch status).mergePatch h.isOrdered)
    exists_mergePatch_eq ?_
  rw [mergePatch_statusPatch]
  have hold : status.roleAssignmentId = none → readMember Tree.readString
      (((document.get? "status").getD .null).get? "bucketAzureRoleAssignmentID") = some none := by
    intro hnone
    have hstatus := h.isReadFrom.status
    cases hvalue : document.get? "status" with
    | none => rfl
    | some value =>
      rw [hvalue, readMember] at hstatus
      by_cases hnull : value = .null
      · subst hnull
        rfl
      · rw [Tree.readOption_ofJson hnull, Option.map_eq_some_iff] at hstatus
        obtain ⟨old, hread, hold⟩ := hstatus
        refine BucketStatus.readMember_of_read (h.isOrdered.get? hvalue) hread ?_
        simpa [← hold] using hrole hnone
  constructor
  · simpa using h.isReadFrom.metadata
  · simpa using h.isReadFrom.spec
  · have hread := BucketStatus.read_mergePatch_toJson h.isOrdered.getD hid hold
    have hobject : ((document.get? "status").getD .null).mergePatch status.toJson ≠ .null := by
      obtain ⟨merged, hmerged⟩ : ∃ merged, ((document.get? "status").getD .null).mergePatch
        status.toJson = .object merged := exists_mergePatch_eq
      rw [hmerged]
      rintro ⟨⟩
    simp only [get?_set, if_true, readMember]
    rw [Tree.readOption_ofJson hobject, hread, Option.map_some]

/-! ### What patches leave alone -/

/-- Two documents differ at most in the finalizers and in the known fields of the status. -/
structure AgreeElsewhere (document document' : Json) : Prop where
  members : ∀ key, key ≠ "metadata" → key ≠ "status" → document'.get? key = document.get? key
  metadata : ∀ key, key ≠ "finalizers" →
    document'.path? ["metadata", key] = document.path? ["metadata", key]
  status : ∀ key, key ∉ BucketStatus.fieldNames →
    document'.path? ["status", key] = document.path? ["status", key]

lemma AgreeElsewhere.refl (document : Json) : AgreeElsewhere document document :=
  ⟨fun _ _ _ => rfl, fun _ _ => rfl, fun _ _ => rfl⟩

lemma AgreeElsewhere.trans {d₁ d₂ d₃ : Json} (h : AgreeElsewhere d₁ d₂)
    (h' : AgreeElsewhere d₂ d₃) : AgreeElsewhere d₁ d₃ where
  members key hm hs := (h'.members key hm hs).trans (h.members key hm hs)
  metadata key hk := (h'.metadata key hk).trans (h.metadata key hk)
  status key hk := (h'.status key hk).trans (h.status key hk)

lemma agreeElsewhere_finalizersPatch {finalizers : List String} :
    AgreeElsewhere document (document.mergePatch (finalizersPatch finalizers)) := by
  rw [mergePatch_finalizersPatch]
  constructor
  · intro key hm _
    simp [hm]
  · intro key hk
    simp [path?_pair, hk]
  · intro key _
    simp [path?_pair]

lemma agreeElsewhere_statusPatch {status : BucketStatus} :
    AgreeElsewhere document (document.mergePatch (statusPatch status)) := by
  rw [mergePatch_statusPatch]
  constructor
  · intro key _ hs
    simp [hs]
  · intro key _
    simp [path?_pair]
  · intro key hk
    simp only [BucketStatus.fieldNames, List.mem_cons, not_or, List.not_mem_nil,
      not_false_eq_true, and_true] at hk
    simp [path?_pair, BucketStatus.get?_mergePatch_toJson, hk]

end Bucket

end BucketOperator
