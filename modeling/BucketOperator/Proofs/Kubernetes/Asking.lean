import BucketOperator.Azure.AccessSecret
import BucketOperator.Bucket.Store
import BucketOperator.Proofs.Kubernetes.Writing
import BucketOperator.Proofs.Program.Asking

/-!
# Programs of the control plane

What is done about objects of the control plane is done there: such programs wait and ask the
Kubernetes API, and send nothing to anybody else.
-/

namespace BucketOperator

/-- A call that sends nothing to a cloud. -/
def World.Call.IsOffline : World.Call → Prop
  | .http _ => False
  | .s3 .. => False
  | .iam .. => False
  | _ => True

namespace Retry

variable {α : Type} {attempt : Program World α} {again : α → Bool} {patience : Nat}
  {backoff : Backoff} {A : World.Call → Prop}

/-- Repeated attempts wait, and ask what the attempts ask. -/
lemma onlyAsks_persist (hattempt : attempt.OnlyAsks A) (hclock : A .clock)
    (hsleep : ∀ duration, A (.sleep duration)) :
    (inWorld attempt (persist patience again backoff)).OnlyAsks A := by
  refine (ensures_persist (P := fun _ => True) (C := fun _ => True) (Q := fun _ _ => True)
    ⟨?_, ?_⟩ (fun _ _ => trivial) ?_ trivial).onlyAsks
  · exact fun _ _ => ⟨hclock, fun _ _ _ => trivial⟩
  · exact fun _ duration _ => ⟨hsleep duration, fun _ _ _ => trivial⟩
  · intro s _
    refine hattempt.ensures (fun _ _ h => h) ?_
    rintro s (_ | a)
    · trivial
    · exact ⟨fun _ => trivial, fun _ => ⟨trivial, fun _ _ _ => trivial⟩⟩

end Retry

namespace Kubernetes

open Json
open World.Call (IsOffline)

section Calls

variable {α : Type} {read : Tree → Option α} {action : Action} {collection name tail part : String}
  {query : String} {kind : PatchKind} {body : Json} {patience : Nat}

lemma onlyAsks_send : (send action collection name tail).OnlyAsks IsOffline := by
  rcases send_cases action collection name tail with hsend | ⟨request, -, hsend⟩
  · rw [hsend]
    trivial
  · rw [hsend]
    exact ⟨trivial, fun _ => trivial⟩

lemma onlyAsks_get : (get? read collection name).OnlyAsks IsOffline := by
  refine onlyAsks_send.bind fun outcome => ?_
  split <;> trivial

lemma onlyAsks_patch : (patch read kind collection name part query body).OnlyAsks IsOffline := by
  refine onlyAsks_send.bind fun outcome => ?_
  split <;> trivial

lemma onlyAsks_delete : (delete read collection name).OnlyAsks IsOffline := by
  refine onlyAsks_send.bind fun outcome => ?_
  split <;> trivial

lemma onlyAsks_persist {attempt : Program World (Except Failure α)}
    (h : attempt.OnlyAsks IsOffline) : (persist patience attempt).OnlyAsks IsOffline :=
  (Retry.onlyAsks_persist h trivial fun _ => trivial).bind fun _ => trivial

end Calls

/-! ### What is read -/

section Reading

variable {α : Type} {read : Tree → Option α} {collection name : String}

/-- What an answer tells of an object: that there is one, that there is none, or neither. -/
def told (read : Tree → Option α) : Except Failure Body → Except Failure (Option α)
  | .ok body => (body.decode read).map some
  | .error (.status _ true) => .ok none
  | .error failure => .error failure

lemma get?_eq : get? read collection name =
    (send .get collection name "").bind fun outcome => .done (told read outcome) := by
  rw [get?, Program.bind_eq]
  congr 1
  funext outcome
  rcases outcome with (⟨code, _ | _⟩ | _ | _ | _) | body <;> rfl

/-- Reading is one request at most. -/
lemma get_cases (read : Tree → Option α) (collection name : String) :
    get? read collection name = .done (.error .other) ∨
    ∃ request, Request.of? .get (collection ++ "/" ++ name) = some request ∧
      get? read collection name =
        .ask (.kubernetes request) fun (reply : Reply) => .done (told read reply.outcome) := by
  rw [get?_eq]
  rcases send_cases .get collection name "" with hsend | ⟨request, hrequest, hsend⟩
  · rw [hsend]
    exact .inl rfl
  · rw [hsend]
    rw [String.append_empty] at hrequest
    exact .inr ⟨request, hrequest, rfl⟩

/-- That there is no such object is told by nothing but such a status. -/
lemma told_eq_none {outcome : Except Failure Body} (h : told read outcome = .ok none) :
    ∃ code, outcome = .error (.status code true) := by
  rcases outcome with (⟨code, _ | _⟩ | _ | _ | _) | body
  · cases h
  · exact ⟨code, rfl⟩
  · cases h
  · cases h
  · cases h
  · rw [told, Body.decode] at h
    split at h <;> cases h

/-- What is told is worth another attempt only if the answer was. -/
lemma asksAgain_of_told {outcome : Except Failure Body}
    (h : asksAgain (told read outcome) = true) : asksAgain outcome = true := by
  rcases outcome with (⟨code, _ | _⟩ | _ | _ | _) | body
  · exact h
  · cases h
  · exact h
  · cases h
  · cases h
  · rw [told, Body.decode] at h
    split at h <;> cases h

end Reading

section Finalizers

variable {α : Type} {kind : Kind α} {patience : Nat} {object : α} {finalizers : List String}
  {finalizer : String}

lemma onlyAsks_patchFinalizers :
    (kind.patchFinalizers patience object finalizers).OnlyAsks IsOffline :=
  (onlyAsks_persist onlyAsks_patch).bind fun _ => trivial

lemma onlyAsks_addFinalizer :
    (kind.addFinalizer patience object finalizer).OnlyAsks IsOffline := by
  unfold Kind.addFinalizer
  split
  · exact onlyAsks_patchFinalizers
  · trivial

lemma onlyAsks_removeFinalizer :
    (kind.removeFinalizer patience object finalizer).OnlyAsks IsOffline := by
  unfold Kind.removeFinalizer
  split
  · exact onlyAsks_patchFinalizers
  · trivial

end Finalizers

end Kubernetes

open World.Call (IsOffline)

lemma Bucket.onlyAsks_patchStatus {patience : Nat} {bucket : Bucket} {status : BucketStatus} :
    (Bucket.patchStatus patience bucket status).OnlyAsks IsOffline :=
  (Kubernetes.onlyAsks_persist Kubernetes.onlyAsks_patch).bind fun _ => trivial

namespace Azure.AccessSecret

lemma onlyAsks_apply {namespaceName name accountName accountKey : String} :
    (apply namespaceName name accountName accountKey).OnlyAsks IsOffline :=
  Kubernetes.onlyAsks_patch.bind fun _ => trivial

lemma onlyAsks_remove {patience : Nat} {namespaceName name : String} :
    (remove patience namespaceName name).OnlyAsks IsOffline := by
  refine Kubernetes.onlyAsks_get.bind fun found => ?_
  rcases found with failure | _ | secret
  · trivial
  · trivial
  refine Kubernetes.onlyAsks_removeFinalizer.bind fun outcome => ?_
  rcases outcome with failure | u
  · trivial
  refine Kubernetes.onlyAsks_delete.bind fun outcome => ?_
  split <;> trivial

end Azure.AccessSecret

end BucketOperator
