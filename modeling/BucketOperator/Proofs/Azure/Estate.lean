import BucketOperator.Azure.Server
import BucketOperator.Azure.Storage
import BucketOperator.Proofs.Program.Layer

/-!
# What a bucket leaves on Azure

Resource Manager keeps resources by path, and the cluster keeps secrets. Any call may fail, with
or without an effect; an answer that a resource does not exist is true.
-/

namespace BucketOperator.Azure

open Program (ensures_bind)

/-- The resources that exist, and the secrets, each by its namespace and name. -/
structure Estate where
  resources : Server.Resources
  secrets : List (String × String)

namespace Estate

variable (e : Estate)

def Has (path : String) : Prop := (e.resources.get? path).isSome = true

def put (path : String) (body : Json) : Estate :=
  { e with resources := e.resources.insert path body }

/-- Without a resource and everything below it. -/
def erase (path : String) : Estate :=
  { e with resources := e.resources.filter fun p _ => !Server.isWithin p path }

def addSecret (namespaceName name : String) : Estate :=
  { e with secrets := (namespaceName, name) :: e.secrets }

def dropSecret (namespaceName name : String) : Estate :=
  { e with secrets := e.secrets.filter (· ≠ (namespaceName, name)) }

/-- What may be answered about a resource, given whether it exists. -/
def IsTrue {α : Type} (present : Prop) (r : Except Failure α) : Prop :=
  (∀ a, r = .ok a → present) ∧ ∀ f, r = .error f → f.isNotFound = true → ¬ present

/-- What a call may be answered, with the estate afterwards. -/
def Answers : (c : Call) → c.Answer → Estate → Prop
  | .get path _, r, e' => e' = e ∧ IsTrue (e.Has path) r
  | .put path _ body, r, e' => e' = e.put path body ∨ (∀ v, r ≠ .ok v) ∧ e' = e
  | .post .., _, e' => e' = e
  | .delete path _, r, e' =>
    (e' = e.erase path ∨ r ≠ .ok () ∧ e' = e) ∧
      ∀ f, r = .error f → f.isNotFound = true → ¬ e'.Has path
  | .applySecret namespaceName name _ _, r, e' =>
    e' = e.addSecret namespaceName name ∨ r ≠ .ok () ∧ e' = e
  | .deleteSecret namespaceName name, r, e' =>
    e' = e.dropSecret namespaceName name ∨ r ≠ .ok () ∧ e' = e

end Estate

/-- Resource Manager and the cluster's secrets as a world. -/
def managed : Behaviour Api Estate := Estate.Answers

/-! ### Paths -/

lemma isWithin_iff {path resource : String} :
    Server.isWithin path resource = true ↔
      path = resource ∨ (resource ++ "/").toList <+: path.toList := by
  rw [Server.isWithin, Bool.or_eq_true, beq_iff_eq, String.startsWith_string_iff]

lemma isWithin_self (path : String) : Server.isWithin path path = true :=
  isWithin_iff.2 (.inl rfl)

lemma isWithin_below (path rest : String) :
    Server.isWithin (path ++ "/" ++ rest) path = true := by
  apply isWithin_iff.2
  right
  simp only [String.toList_append]
  exact List.prefix_append _ _

/-- What is below a resource is within everything the resource is within. -/
lemma isWithin_below_of_isWithin {path resource rest : String}
    (h : Server.isWithin path resource = true) :
    Server.isWithin (path ++ "/" ++ rest) resource = true := by
  rcases isWithin_iff.1 h with rfl | h
  · exact isWithin_below path rest
  · apply isWithin_iff.2
    right
    simp only [String.toList_append, List.append_assoc] at h ⊢
    exact h.trans (List.prefix_append _ _)

namespace ResourceIds

variable (ids : ResourceIds)

lemma group_eq : ids.group =
    "/subscriptions/" ++ ids.subscriptionId ++ "/resourceGroups/" ++ ids.resourceGroup := by
  rfl

lemma container_eq : ids.container =
    ids.storageAccount ++ "/" ++ ("blobServices/default/containers/" ++ ids.bucketName) := by
  apply String.toList_inj.1
  simp [container, String.toList_append, ToString.toString]

lemma container_ne_storageAccount : ids.container ≠ ids.storageAccount := by
  intro h
  rw [container_eq] at h
  have hlist := congrArg String.toList h
  simp [String.toList_append] at hlist

end ResourceIds

/-! ### Resources -/

namespace Estate

variable {e : Estate} {path p : String}

@[simp] lemma has_put {body : Json} : (e.put path body).Has p ↔ p = path ∨ e.Has p := by
  unfold Has put
  rw [StringMap.get?_insert]
  split
  · rename_i h
    simp [h]
  · rename_i h
    simp [h]

@[simp] lemma has_erase : (e.erase path).Has p ↔ Server.isWithin p path = false ∧ e.Has p := by
  unfold Has erase
  rw [StringMap.get?_filter_key e.resources fun q => !Server.isWithin q path]
  cases Server.isWithin p path <;> simp

/-- Nothing is there that was not there before. -/
structure Shrinks (e e' : Estate) : Prop where
  resources : ∀ p, e'.Has p → e.Has p
  secrets : ∀ s ∈ e'.secrets, s ∈ e.secrets

lemma Shrinks.refl (e : Estate) : Shrinks e e := ⟨fun _ h => h, fun _ h => h⟩

lemma Shrinks.trans {e₁ e₂ e₃ : Estate} (h : Shrinks e₁ e₂) (h' : Shrinks e₂ e₃) :
    Shrinks e₁ e₃ :=
  ⟨fun p hp => h.resources p (h'.resources p hp), fun s hs => h.secrets s (h'.secrets s hs)⟩

lemma shrinks_erase : Shrinks e (e.erase path) :=
  ⟨fun _ h => (has_erase.1 h).2, fun _ h => h⟩

/-- Deleting a resource adds nothing, and what is not found is not there. -/
lemma Answers.delete {version : String} {r : Except Failure Unit} {e' : Estate}
    (h : e.Answers (.delete path version) r e') : Shrinks e e' := by
  rcases h.1 with rfl | ⟨_, rfl⟩
  · exact shrinks_erase
  · exact .refl _

/-! ### The parts of a bucket -/

variable (e : Estate) (ids : ResourceIds) (namespaceName : String)

/-- Both the account and the container exist. -/
def IsComplete : Prop := e.Has ids.storageAccount ∧ e.Has ids.container

/-- Nothing is left of what is put in place for a bucket. -/
structure IsClean : Prop where
  account : ¬ e.Has ids.storageAccount
  container : ¬ e.Has ids.container
  endpoint : ¬ e.Has ids.privateEndpoint
  addressRecord : ¬ e.Has ids.addressRecord
  secret : (namespaceName, ids.bucketName) ∉ e.secrets

variable {e ids namespaceName}

lemma IsClean.not_isComplete (h : e.IsClean ids namespaceName) : ¬ e.IsComplete ids :=
  fun hc => h.account hc.1

lemma IsClean.shrinks {e' : Estate} (h : e.IsClean ids namespaceName) (hs : Shrinks e e') :
    e'.IsClean ids namespaceName where
  account hp := h.account (hs.resources _ hp)
  container hp := h.container (hs.resources _ hp)
  endpoint hp := h.endpoint (hs.resources _ hp)
  addressRecord hp := h.addressRecord (hs.resources _ hp)
  secret hp := h.secret (hs.secrets _ hp)

end Estate

end BucketOperator.Azure
