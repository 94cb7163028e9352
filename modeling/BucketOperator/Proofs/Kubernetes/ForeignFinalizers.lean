import BucketOperator.Azure.AccessSecret
import BucketOperator.Bucket.Store
import BucketOperator.Proofs.Bucket.Patching
import BucketOperator.Proofs.Kubernetes.FinalizerLists
import BucketOperator.Proofs.Kubernetes.Writing

/-!
# The finalizers of others

A finalizer is put on an object, or taken off, by a patch that names the whole list, and the list
is the one that was read, with just that finalizer changed. Whatever others have done to their own
finalizers since then is undone.
-/

namespace BucketOperator.Kubernetes

open Json
open Json.Tree (readMember)
open Program (Returns)

/-! ### Objects with finalizers -/

/-- The objects that the operator keeps with a finalizer: records, and secrets with keys. -/
inductive IsGuarded : {α : Type} → Kind α → String → Prop where
  | record : IsGuarded Bucket.kind Bucket.finalizer
  | secret : IsGuarded Azure.AccessSecret.kind Azure.AccessSecret.finalizer

section Showing

variable {document : Json}

lemma finalizersIn_of_metadata {metadata : Json} {m : Metadata} (hordered : document.IsOrdered)
    (hdocument : document.get? "metadata" = some metadata)
    (h : Metadata.read (.ofJson metadata) = some m) : finalizersIn document = m.finalizers := by
  obtain ⟨members, rfl⟩ := Metadata.exists_object_of_read h
  have hsorted := (hordered.get? hdocument).pairwise
  exact finalizersIn_eq ((Metadata.read_ofJson_iff hsorted).1 h) hdocument

lemma finalizersIn_of_record {bucket : Bucket} (h : Bucket.Represents document bucket) :
    finalizersIn document = bucket.metadata.finalizers := by
  obtain ⟨metadata, hmetadata, hread⟩ := Option.bind_eq_some_iff.1 h.isReadFrom.metadata
  exact finalizersIn_of_metadata h.isOrdered hmetadata hread

/-- A secret may have no metadata, and then has no finalizers. -/
lemma finalizersIn_of_secret {secret : Secret} (hordered : document.IsOrdered)
    (h : Secret.read (.ofJson document) = some secret) :
    finalizersIn document = secret.metadata.finalizers := by
  cases document with
  | object members =>
    unfold Secret.read at h
    rw [Tree.openFields?_ofJson] at h
    obtain ⟨_, ⟨⟩, h⟩ := Option.bind_eq_some_iff.1 h
    obtain ⟨_, -, h⟩ := Option.bind_eq_some_iff.1 h
    simp only [Option.bind_eq_bind, Option.bind_eq_some_iff, Option.pure_def,
      Option.some.injEq] at h
    obtain ⟨_, _, _, _, _, _, metadata?, hmetadata, _, _, rfl⟩ := h
    rw [Tree.optionalAll_fieldsOf (by decide) hordered.pairwise] at hmetadata
    cases hmember : (Json.object members).get? "metadata" with
    | none =>
      rw [hmember] at hmetadata
      cases hmetadata
      simp [finalizersIn, path?, hmember, Metadata.finalizers, Metadata.empty]
    | some metadata =>
      rw [hmember, readMember] at hmetadata
      by_cases hnull : metadata = .null
      · subst hnull
        cases hmetadata
        simp only [finalizersIn, path?, hmember]
        rfl
      · rw [Tree.readOption_ofJson hnull, Option.map_eq_some_iff] at hmetadata
        obtain ⟨m, hm, rfl⟩ := hmetadata
        exact finalizersIn_of_metadata hordered hmember hm
  | _ => cases h

/-- An object has the finalizers that its document lists. -/
theorem IsGuarded.finalizersIn_eq {α : Type} {kind : Kind α} {finalizer : String} {object : α}
    (hkind : IsGuarded kind finalizer) (hordered : document.IsOrdered)
    (hobject : ∃ members, document = .object members)
    (h : kind.read (.ofJson document) = some object) :
    finalizersIn document = (kind.metadata object).finalizers := by
  cases hkind with
  | record => exact finalizersIn_of_record ⟨hordered, hobject, h⟩
  | secret => exact finalizersIn_of_secret hordered h

end Showing

/-! ### What is sent -/

/-- Two lists name the same finalizers of others. -/
def SameForeign (finalizer : String) (l l' : List String) : Prop :=
  ∀ f, f ≠ finalizer → (f ∈ l ↔ f ∈ l')

section Sending

variable {α : Type} {kind : Kind α} {object : α} {finalizer : String} {patience : Nat}
  {request : Request} {finalizers : List String}

/-- The patch of the finalizers of an object, as it is sent. -/
def IsPatchOf (kind : Kind α) (object : α) (finalizers : List String) (request : Request) : Prop :=
  Request.of? (.patch .merge (finalizersPatch finalizers))
    (kind.collectionOf object ++ "/" ++ (kind.metadata object).anyName ++ "?") = some request

/-- Whatever is asked of the control plane is of a kind. -/
def SendsOnly (P : Request → Prop) (c : World.Call) : Prop :=
  ∀ request, c = .kubernetes request → P request

/-- To replace the finalizers of an object nothing but their patch is sent. -/
lemma isPatchOf_of_mayAsk
    (h : (kind.patchFinalizers patience object finalizers).MayAsk (.kubernetes request)) :
    IsPatchOf kind object finalizers request := by
  have hattempt : (patch kind.read .merge (kind.collectionOf object)
      (kind.metadata object).anyName "" "" (finalizersPatch finalizers)).Ensures
      (fun (_ : Unit) _ _ _ => True) (fun _ c => SendsOnly (IsPatchOf kind object finalizers) c)
      (Returns (fun _ _ => True ∧ True) fun _ => True) () := by
    rcases send_cases (.patch .merge (finalizersPatch finalizers)) (kind.collectionOf object)
      (kind.metadata object).anyName ("" ++ "?" ++ "") with hsend | ⟨request, hrequest, hsend⟩
    · rw [patch, hsend]
      exact ⟨trivial, trivial⟩
    · rw [patch, hsend]
      refine ⟨?_, ?_⟩
      · rintro _ ⟨⟩
        exact hrequest
      · rintro (reply : Reply) _ -
        simp only [Program.done_bind]
        cases reply.outcome <;> exact ⟨trivial, trivial⟩
  have hall : (kind.patchFinalizers patience object finalizers).Ensures
      (fun (_ : Unit) _ _ _ => True) (fun _ c => SendsOnly (IsPatchOf kind object finalizers) c)
      (fun _ _ => True) () := by
    rw [Kind.patchFinalizers, persist, Program.bind_eq, Program.bind_eq, Program.bind_assoc,
      Program.ensures_bind]
    refine (Retry.ensures_persist_of_isIdle (P := fun _ => True) (Q := fun _ _ => True)
      ⟨fun _ _ _ _ => rfl, fun _ _ _ _ _ => rfl⟩ ?_ ?_ (fun _ _ => hattempt) trivial).mono
      (fun _ _ h => h) ?_
    · rintro _ _ _ ⟨⟩
    · rintro _ _ _ _ ⟨⟩
    · rintro _ (_ | outcome) _ <;> trivial
  exact hall.mayAsk h request rfl

lemma withFinalizer?_sameForeign {current : List String}
    (h : withFinalizer? current finalizer = some finalizers) :
    SameForeign finalizer finalizers current := by
  obtain ⟨-, rfl⟩ := withFinalizer?_eq_some_iff.1 h
  intro f hf
  simp [hf]

lemma withoutFinalizer?_sameForeign {current : List String}
    (h : withoutFinalizer? current finalizer = some finalizers) :
    SameForeign finalizer finalizers current := by
  intro f hf
  have hcount := (withoutFinalizer?_eq_some_iff.1 h).2.asOften f hf
  rw [← List.count_pos_iff, hcount, List.count_pos_iff]

/-- The patch is sent, if the object has a name. -/
lemma mayAsk_patchFinalizers (hname : (kind.metadata object).anyName ≠ "")
    (h : IsPatchOf kind object finalizers request) :
    (kind.patchFinalizers (patience + 1) object finalizers).MayAsk (.kubernetes request) := by
  have hsend : send (.patch .merge (finalizersPatch finalizers)) (kind.collectionOf object)
      (kind.metadata object).anyName ("" ++ "?" ++ "") =
      .ask (.kubernetes request) fun (reply : Reply) => .done reply.outcome := by
    have hrequest : Request.of? (.patch .merge (finalizersPatch finalizers))
        (kind.collectionOf object ++ "/" ++ (kind.metadata object).anyName ++ ("" ++ "?" ++ "")) =
        some request := h
    rw [send, if_neg hname, hrequest]
    rfl
  have hattempt : (patch kind.read .merge (kind.collectionOf object)
      (kind.metadata object).anyName "" "" (finalizersPatch finalizers)).MayAsk
      (.kubernetes request) := by
    rw [patch, hsend]
    exact Program.mayAsk_ask_iff.2 (.inl rfl)
  rw [Kind.patchFinalizers, persist, Retry.inWorld_persist]
  refine Program.MayAsk.bind (Program.MayAsk.bind ?_)
  refine Program.mayAsk_ask_iff.2 (.inr ⟨(0 : Nat), ?_⟩)
  rw [Retry.inWorld_attemptFrom_succ]
  exact hattempt.bind

end Sending

/-! ### What becomes of the finalizers of others -/

/-- When a finalizer is put on an object, or taken off, the patch that is sent leaves the others
their finalizers exactly if these are still the ones that were read. -/
theorem foreign_kept_iff_unchanged {α : Type} {kind : Kind α} {finalizer : String} {object : α}
    {seen : Json} {patience : Nat} {request : Request} (hkind : IsGuarded kind finalizer)
    (hordered : seen.IsOrdered) (hobject : ∃ members, seen = .object members)
    (hseen : kind.read (.ofJson seen) = some object)
    (hasked : (kind.addFinalizer patience object finalizer).MayAsk (.kubernetes request) ∨
      (kind.removeFinalizer patience object finalizer).MayAsk (.kubernetes request)) :
    ∃ body, Request.of? (.patch .merge body)
        (kind.collectionOf object ++ "/" ++ (kind.metadata object).anyName ++ "?") = some request ∧
      ∀ left : Json,
        SameForeign finalizer (finalizersIn (left.mergePatch body)) (finalizersIn left) ↔
          SameForeign finalizer (finalizersIn left) (finalizersIn seen) := by
  obtain ⟨finalizers, hsame, hpatch⟩ : ∃ finalizers,
      SameForeign finalizer finalizers (kind.metadata object).finalizers ∧
        IsPatchOf kind object finalizers request := by
    rcases hasked with h | h
    · unfold Kind.addFinalizer at h
      split at h
      next finalizers heq =>
        exact ⟨finalizers, withFinalizer?_sameForeign heq, isPatchOf_of_mayAsk h⟩
      · exact absurd h Program.not_mayAsk_done
    · unfold Kind.removeFinalizer at h
      split at h
      next finalizers heq =>
        exact ⟨finalizers, withoutFinalizer?_sameForeign heq, isPatchOf_of_mayAsk h⟩
      · exact absurd h Program.not_mayAsk_done
  refine ⟨_, hpatch, ?_⟩
  intro left
  rw [finalizersIn_patched, hkind.finalizersIn_eq hordered hobject hseen]
  constructor
  · intro h f hf
    exact (h f hf).symm.trans (hsame f hf)
  · intro h f hf
    exact (hsame f hf).trans (h f hf).symm

/-! ### A record that others share -/

/-- A record with some finalizers. -/
def held (finalizers : List String) : Bucket where
  metadata :=
    { name := some "logs"
      generateName := none
      namespaceName := some "monitoring"
      finalizerList := some finalizers
      deletionTimestamp := none }
  spec :=
    { name := "logs"
      expirationDays := none
      reclaimPolicy := .retain
      accessRole := none
      tags := [] }
  status := none

def heldDocument (finalizers : List String) : Json :=
  .object [
    ("metadata", .object [
      ("finalizers", .strings finalizers),
      ("name", .string "logs"),
      ("namespace", .string "monitoring")]),
    ("spec", .object [("name", .string "logs")])]

lemma exists_isPatchOf (finalizers finalizers' : List String) :
    ∃ request, IsPatchOf Bucket.kind (held finalizers) finalizers' request ∧
      request.action = .patch .merge (finalizersPatch finalizers') := by
  have hsome : (splitTarget? (buckets "monitoring" ++ "/" ++ "logs" ++ "?")).isSome = true := by
    decide +kernel
  obtain ⟨target, htarget⟩ := Option.isSome_iff_exists.1 hsome
  exact ⟨_, Option.map_eq_some_iff.2 ⟨target, htarget, rfl⟩, rfl⟩

lemma finalizersIn_heldDocument (finalizers : List String) :
    finalizersIn (heldDocument finalizers) = finalizers :=
  filterMap_string? finalizers

/-- The operator's finalizer is taken off a record that it was read with. -/
lemma exists_removal : ∃ request,
    (Bucket.kind.removeFinalizer 1 (held [Bucket.finalizer]) Bucket.finalizer).MayAsk
        (.kubernetes request) ∧
      request.action = .patch .merge (finalizersPatch []) := by
  obtain ⟨request, hpatch, haction⟩ := exists_isPatchOf [Bucket.finalizer] []
  have hlist : withoutFinalizer? (Bucket.kind.metadata (held [Bucket.finalizer])).finalizers
      Bucket.finalizer = some [] := by
    decide
  refine ⟨request, ?_, haction⟩
  rw [Kind.removeFinalizer, hlist]
  exact mayAsk_patchFinalizers (by decide) hpatch

/-- It is put on a record that was read with a finalizer of somebody else. -/
lemma exists_addition : ∃ request,
    (Bucket.kind.addFinalizer 1 (held ["example.com/backup"]) Bucket.finalizer).MayAsk
        (.kubernetes request) ∧
      request.action =
        .patch .merge (finalizersPatch ["example.com/backup", Bucket.finalizer]) := by
  obtain ⟨request, hpatch, haction⟩ := exists_isPatchOf ["example.com/backup"]
    ["example.com/backup", Bucket.finalizer]
  have hlist : withFinalizer? (Bucket.kind.metadata (held ["example.com/backup"])).finalizers
      Bucket.finalizer = some ["example.com/backup", Bucket.finalizer] := by
    decide
  refine ⟨request, ?_, haction⟩
  rw [Kind.addFinalizer, hlist]
  exact mayAsk_patchFinalizers (by decide) hpatch

/-- A finalizer that was added after the record had been read is lost when the operator's is
removed. One that was removed after that comes back when the operator's is added. -/
theorem stale_list_undoes_others :
    (∃ request body,
      (Bucket.kind.removeFinalizer 1 (held [Bucket.finalizer]) Bucket.finalizer).MayAsk
        (.kubernetes request) ∧ request.action = .patch .merge body ∧
      "example.com/backup" ∈
        finalizersIn (heldDocument [Bucket.finalizer, "example.com/backup"]) ∧
      "example.com/backup" ∉
        finalizersIn ((heldDocument [Bucket.finalizer, "example.com/backup"]).mergePatch body)) ∧
    ∃ request body,
      (Bucket.kind.addFinalizer 1 (held ["example.com/backup"]) Bucket.finalizer).MayAsk
        (.kubernetes request) ∧ request.action = .patch .merge body ∧
      "example.com/backup" ∉ finalizersIn (heldDocument []) ∧
      "example.com/backup" ∈ finalizersIn ((heldDocument []).mergePatch body) := by
  obtain ⟨removal, hremoval, hremoved⟩ := exists_removal
  obtain ⟨addition, haddition, hadded⟩ := exists_addition
  refine ⟨⟨removal, _, hremoval, hremoved, ?_⟩, addition, _, haddition, hadded, ?_⟩
  · simp [finalizersIn_heldDocument]
  · simp [finalizersIn_heldDocument]

/-- Only while nobody has changed the list does taking the finalizer off spare the others. -/
theorem removal_spares_iff : ∃ request,
    (Bucket.kind.removeFinalizer 1 (held [Bucket.finalizer]) Bucket.finalizer).MayAsk
        (.kubernetes request) ∧
      ∃ body, Request.of? (.patch .merge body)
          (Bucket.kind.collectionOf (held [Bucket.finalizer]) ++ "/" ++ "logs" ++ "?") =
            some request ∧
        ∀ left : Json,
          SameForeign Bucket.finalizer (finalizersIn (left.mergePatch body)) (finalizersIn left) ↔
            SameForeign Bucket.finalizer (finalizersIn left)
              (finalizersIn (heldDocument [Bucket.finalizer])) := by
  obtain ⟨request, hasked, -⟩ := exists_removal
  have hread : Bucket.kind.read (.ofJson (heldDocument [Bucket.finalizer])) =
      some (held [Bucket.finalizer]) := rfl
  have hvalue : (Tree.ofJson (heldDocument [Bucket.finalizer])).value? =
      some (heldDocument [Bucket.finalizer]) := rfl
  exact ⟨request, hasked, foreign_kept_iff_unchanged .record (isOrdered_of_value? hvalue) ⟨_, rfl⟩
    hread (.inr hasked)⟩

end BucketOperator.Kubernetes
