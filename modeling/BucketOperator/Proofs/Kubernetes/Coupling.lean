import BucketOperator.Proofs.Kubernetes.Likeness
import BucketOperator.Proofs.Retry

/-!
# Runs that are told another client secret

Two runs of a program that uses the Kubernetes API may be told different client secrets. They ask
the same of it, and come to the same result, or to objects that differ in the secret alone.
-/

namespace BucketOperator

open Program (Coupled)

/-- A call to anybody but the Kubernetes API. -/
def World.Call.IsElsewhere : World.Call → Prop
  | .kubernetes _ => False
  | _ => True

/-- What two runs are told differs in what the control plane shows of a client secret alone. -/
structure Comparison.OfSecret (K : Comparison World) : Prop where
  same : ∀ u c, K.calls u c c
  shown : ∀ request reply reply',
    K.exchanges ⟨.kubernetes request, reply⟩ ⟨.kubernetes request, reply'⟩ →
      Kubernetes.Reply.Alike reply reply'
  told : ∀ c r r', c.IsElsewhere → K.exchanges ⟨c, r⟩ ⟨c, r'⟩ → r = r'

variable {K : Comparison World} {u : Trace World}

/-- A program that does not use the Kubernetes API does the same both times. -/
lemma Comparison.OfSecret.coupled {α : Type} {p : Program World α} (hK : K.OfSecret)
    (h : p.OnlyAsks World.Call.IsElsewhere) : Coupled K (fun _ => Eq) u p p :=
  h.coupled hK.same hK.told

namespace Retry

variable {α : Type} {attempt attempt' : Program World α} {S : α → α → Prop} {again : α → Bool}

lemma coupled_attemptFrom (hK : K.OfSecret)
    (hattempt : ∀ u, Coupled K (fun _ => S) u attempt attempt')
    (hagain : ∀ a b, S a b → again a = again b) {start patience : Nat} {backoff : Backoff} :
    Coupled K (fun _ => S) u (inWorld attempt (attemptFrom again start patience backoff))
      (inWorld attempt' (attemptFrom again start patience backoff)) := by
  induction patience generalizing u backoff with
  | zero => trivial
  | succ patience ih =>
    rw [inWorld_attemptFrom_succ, inWorld_attemptFrom_succ]
    refine (hattempt u).bind fun v a b hab => ?_
    rw [proceed, proceed, hagain a b hab]
    split
    · refine ⟨hK.same _ _, ?_⟩
      rintro (now : Nat) (now' : Nat) hnow
      cases hK.told .clock now now' trivial hnow
      change Coupled K _ _ (if _ then _ else _ : Program World α) (if _ then _ else _)
      split
      · exact hab
      · split
        · trivial
        · exact ⟨hK.same _ _, fun _ _ _ => ih⟩
    · exact hab

/-- Repeated attempts that are coupled come to related outcomes if these agree on whether to try
again. -/
lemma coupled_persist (hK : K.OfSecret) (hattempt : ∀ u, Coupled K (fun _ => S) u attempt attempt')
    (hagain : ∀ a b, S a b → again a = again b) {patience : Nat} {backoff : Backoff} :
    Coupled K (fun _ => S) u (inWorld attempt (persist patience again backoff))
      (inWorld attempt' (persist patience again backoff)) := by
  refine ⟨hK.same _ _, ?_⟩
  rintro (start : Nat) (start' : Nat) hstart
  cases hK.told .clock start start' trivial hstart
  exact coupled_attemptFrom hK hattempt hagain

end Retry

namespace Kubernetes

open Json

variable {α : Type} {S : α → α → Prop} {read : Tree → Option α} {action : Action}
  {collection name tail part query : String} {kind : PatchKind} {body : Json} {patience : Nat}

lemma coupled_send (hK : K.OfSecret) :
    Coupled K (fun _ => Agree Body.Alike) u (send action collection name tail)
      (send action collection name tail) := by
  rcases send_cases action collection name tail with hsend | ⟨request, -, hsend⟩
  · rw [hsend]
    exact .error _
  · rw [hsend]
    exact ⟨hK.same _ _, fun reply reply' h => (hK.shown request reply reply' h).agree_outcome⟩

/-- An object was read, as an answer told it. -/
def WasRead (read : Tree → Option α) (collection name : String) (u : Trace World) (a : α) : Prop :=
  ∃ request reply, (⟨.kubernetes request, reply⟩ : Exchange World) ∈ u ∧
    Request.of? .get (collection ++ "/" ++ name) = some request ∧
    told read reply.outcome = .ok (some a)

/-- Reading comes to the same failure, to no object both times, or to related ones. The one of the
first run was told before. -/
lemma coupled_get (hK : K.OfSecret) (hread : ReadsAlike read S) :
    Coupled K (fun v found found' => Agree (Option.Rel S) found found' ∧
        ∀ a, found = .ok (some a) → WasRead read collection name v a) u
      (get? read collection name) (get? read collection name) := by
  rcases get_cases read collection name with hget | ⟨request, hrequest, hget⟩
  · rw [hget]
    exact ⟨.error _, nofun⟩
  · rw [hget]
    refine ⟨hK.same _ _, fun reply reply' h => ?_⟩
    refine ⟨agree_told (hK.shown request reply reply' h).agree_outcome hread, fun a ha => ?_⟩
    exact ⟨request, reply, List.mem_append_right u (List.mem_singleton_self _), hrequest, ha⟩

/-- Patching comes to the same failure, or to related objects. -/
lemma coupled_patch (hK : K.OfSecret) (hread : ReadsAlike read S) :
    Coupled K (fun _ => Agree S) u (patch read kind collection name part query body)
      (patch read kind collection name part query body) := by
  refine (coupled_send hK).bind fun v outcome outcome' h => ?_
  cases h with
  | error failure => exact .error failure
  | ok h => exact agree_decode h hread

/-- Deleting comes to the same failure, or succeeds both times. -/
lemma coupled_delete (hK : K.OfSecret) (hread : ReadsAlike read S) :
    Coupled K (fun _ => Eq) u (delete read collection name) (delete read collection name) := by
  refine (coupled_send hK).bind fun v outcome outcome' h => ?_
  cases h with
  | error failure => rfl
  | ok h => exact agree_eq_iff.1 (agree_decode h hread.deleted)

lemma asksAgain_eq {outcome outcome' : Except Failure α} (h : Agree S outcome outcome') :
    asksAgain outcome = asksAgain outcome' := by
  cases h <;> rfl

lemma coupled_persist {attempt : Program World (Except Failure α)} (hK : K.OfSecret)
    (h : ∀ u, Coupled K (fun _ => Agree S) u attempt attempt) :
    Coupled K (fun _ => Agree S) u (persist patience attempt) (persist patience attempt) := by
  refine (Retry.coupled_persist hK h fun _ _ => asksAgain_eq).bind fun v outcome outcome' h => ?_
  cases h with
  | error failure => exact .error _
  | ok h => exact .ok h

/-! ### Finalizers and records -/

section Objects

variable {kind : Kind α} {object object' : α} {finalizers : List String} {finalizer : String}

/-- Of objects with the same metadata, the same finalizers are written both times. -/
lemma coupled_patchFinalizers (hK : K.OfSecret) (hread : ReadsAlike kind.read S)
    (hobject : kind.metadata object = kind.metadata object') :
    Coupled K (fun _ => Eq) u (kind.patchFinalizers patience object finalizers)
      (kind.patchFinalizers patience object' finalizers) := by
  rw [Kind.patchFinalizers, Kind.patchFinalizers, Kind.collectionOf, Kind.collectionOf, hobject]
  refine (coupled_persist hK fun _ => coupled_patch hK hread).bind fun v outcome outcome' h => ?_
  cases h <;> rfl

/-- The same finalizers are given to the same object. -/
lemma coupled_addFinalizer (hK : K.OfSecret) (hread : ReadsAlike kind.read S) :
    Coupled K (fun _ => Eq) u (kind.addFinalizer patience object finalizer)
      (kind.addFinalizer patience object finalizer) := by
  unfold Kind.addFinalizer
  split
  · exact coupled_patchFinalizers hK hread rfl
  · rfl

lemma coupled_removeFinalizer (hK : K.OfSecret) (hread : ReadsAlike kind.read S)
    (hobject : kind.metadata object = kind.metadata object') :
    Coupled K (fun _ => Eq) u (kind.removeFinalizer patience object finalizer)
      (kind.removeFinalizer patience object' finalizer) := by
  unfold Kind.removeFinalizer
  rw [hobject]
  split
  · exact coupled_patchFinalizers hK hread hobject
  · rfl

end Objects

end Kubernetes

namespace Bucket

variable {patience : Nat} {namespaceName name : String} {bucket : Bucket} {status : BucketStatus}

open Kubernetes (readsAlike_bucket)

/-- The same record is loaded both times. -/
lemma coupled_load (hK : K.OfSecret) :
    Coupled K (fun _ => Eq) u (load patience namespaceName name)
      (load patience namespaceName name) := by
  refine (Kubernetes.coupled_persist hK fun u => (Kubernetes.coupled_get hK
    readsAlike_bucket).mono fun _ _ _ h => h.1).mono fun _ found found' h => ?_
  exact agree_eq_iff.1 (h.mono fun _ _ => rel_eq_iff.1)

lemma coupled_patchStatus (hK : K.OfSecret) :
    Coupled K (fun _ => Eq) u (patchStatus patience bucket status)
      (patchStatus patience bucket status) := by
  refine (Kubernetes.coupled_persist hK fun u => Kubernetes.coupled_patch hK
    readsAlike_bucket).bind fun v outcome outcome' h => ?_
  rw [agree_eq_iff.1 h]
  rfl

end Bucket

namespace Azure.AccessSecret

open Kubernetes (readsAlike_secret)

variable {patience : Nat} {namespaceName name accountName accountKey : String}

lemma coupled_apply (hK : K.OfSecret) :
    Coupled K (fun _ => Eq) u (apply namespaceName name accountName accountKey)
      (apply namespaceName name accountName accountKey) := by
  refine (Kubernetes.coupled_patch hK readsAlike_secret).bind fun v outcome outcome' h => ?_
  cases h <;> rfl

/-- Removing a secret uses nothing of it but its metadata. -/
lemma coupled_remove (hK : K.OfSecret) :
    Coupled K (fun _ => Eq) u (remove patience namespaceName name)
      (remove patience namespaceName name) := by
  refine (Kubernetes.coupled_get hK readsAlike_secret).bind ?_
  rintro v found found' ⟨h, -⟩
  cases h with
  | error failure => rfl
  | ok h =>
    cases h with
    | none => rfl
    | some hsecret =>
      have hkind : Kubernetes.ReadsAlike kind.read Kubernetes.Secret.Alike := readsAlike_secret
      refine (Kubernetes.coupled_removeFinalizer hK hkind hsecret.metadata).bind ?_
      rintro v (failure | _) _ rfl
      · rfl
      refine (Kubernetes.coupled_delete hK readsAlike_secret).bind ?_
      rintro w outcome _ rfl
      refine hK.coupled ?_
      split <;> trivial

end Azure.AccessSecret

end BucketOperator
