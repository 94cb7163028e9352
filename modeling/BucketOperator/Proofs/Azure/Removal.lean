import BucketOperator.Proofs.Azure.Estate
import BucketOperator.Proofs.Azure.Session

/-!
# Finding and removing a bucket on Azure

A bucket is found when its account and its container exist. Removing one that is found leaves
nothing of it, wherever a removal stops nothing has been added, and one that returns has removed
everything.
-/

namespace BucketOperator.Azure

open Program (EndsBefore StepsBefore ensures_bind ensures_steps_bind)

/-! ### Steps as programs -/

section Steps

variable {α β : Type}

/-- An outcome in which a resource that does not exist is no failure. -/
def settle (absent : α) : Except Failure α → Except Failure α
  | .ok a => .ok a
  | .error f => if f.isNotFound then .ok absent else .error f

lemma run_orAbsent (steps : Steps α) (absent : α) :
    (Steps.orAbsent steps absent).run = steps.run.bind fun r => .done (settle absent r) := by
  change steps.run.bind _ = _
  congr 1
  funext r
  cases r with
  | ok a => rfl
  | error f =>
    change ExceptT.run (if f.isNotFound = true then _ else _) = Program.done (ite _ _ _)
    split <;> rfl

lemma run_map (g : α → β) (steps : Steps α) :
    (g <$> steps).run = steps.run.bind fun r => .done (r.map g) := by
  change steps.run.bind _ = _
  congr 1
  funext r
  cases r <;> rfl

lemma run_named (bucket operation : String) (steps : Steps α) :
    (named bucket operation steps).run = steps.run.bind fun r =>
      .done (r.mapError fun failure => .provider bucket operation (.azure failure)) := rfl

/-- Whether a resource was there, as a named operation reports it. -/
def found (bucket operation : String) (r : Except Failure α) :
    Except BucketOperator.Failure Bool :=
  (settle false (r.map fun _ => true)).mapError fun failure =>
    .provider bucket operation (.azure failure)

lemma run_named_exists (bucket operation path version : String) :
    (named bucket operation
      (Steps.orAbsent ((fun _ => true) <$> Steps.get path version) false)).run =
      .ask (.get path version) fun r => .done (found bucket operation r) := by
  rw [run_named, run_orAbsent, run_map]
  rfl

lemma run_named_remove (bucket operation path version : String) :
    (named bucket operation
      (Steps.orAbsent ((fun _ => true) <$> Steps.delete path version) false)).run =
      .ask (.delete path version) fun r => .done (found bucket operation r) := by
  rw [run_named, run_orAbsent, run_map]
  rfl

lemma run_orAbsent_delete (path version : String) :
    (Steps.orAbsent (Steps.delete path version) ()).run =
      .ask (.delete path version) fun r => .done (settle () r) := by
  rw [run_orAbsent]
  rfl

variable {name operation : String} {r : Except Failure α}

lemma found_eq_false : found name operation r = .ok false ↔ IsAbsence r := by
  cases r with
  | ok a => simp [found, settle, Except.map, Except.mapError]
  | error failure =>
    by_cases hf : failure.isNotFound = true <;>
      simp [found, settle, Except.map, Except.mapError, hf]

lemma found_eq_true : found name operation r = .ok true ↔ ∃ a, r = .ok a := by
  cases r with
  | ok a => simp [found, settle, Except.map, Except.mapError]
  | error failure =>
    by_cases hf : failure.isNotFound = true <;>
      simp [found, settle, Except.map, Except.mapError, hf]

lemma found_eq_error {failure : BucketOperator.Failure}
    (h : found name operation r = .error failure) :
    ∃ cause, failure = .provider name operation (.azure cause) := by
  cases r with
  | ok a => simp [found, settle, Except.map, Except.mapError] at h
  | error cause =>
    by_cases hf : cause.isNotFound = true <;>
      simp [found, settle, Except.map, Except.mapError, hf] at h
    exact ⟨cause, h.symm⟩

end Steps

/-! ### Finding a bucket -/

section Finding

variable {e : Estate} {cluster : AzureContext} {bucket : Bucket}

/-- A resource is reported as found or not found only if it is. -/
lemma found_iff_has {α : Type} {name operation path : String} {r : Except Failure α}
    {existed : Bool} (h : Estate.IsTrue (e.Has path) r)
    (hfound : found name operation r = .ok existed) : existed = true ↔ e.Has path := by
  cases existed with
  | false =>
    obtain ⟨f, rfl, hf⟩ := found_eq_false.1 hfound
    exact ⟨nofun, fun hp => absurd hp (h.2 f rfl hf)⟩
  | true =>
    obtain ⟨a, rfl⟩ := found_eq_true.1 hfound
    exact ⟨fun _ => h.1 a rfl, fun _ => rfl⟩

/-- Looking for a bucket changes nothing, and it is found exactly if its account and its container
exist. -/
theorem ensures_doesExist :
    (Storage.doesExist cluster bucket).run.Ensures managed (fun e' _ => e' = e)
      (fun e' o => e' = e ∧ ∀ found, o = some (.ok found) →
        (found = true ↔ e.IsComplete (.of cluster bucket.spec.name))) e := by
  rw [Storage.doesExist, ensures_steps_bind, Account.doesExist, run_named_exists]
  refine ⟨rfl, ?_⟩
  rintro r _ ⟨rfl, hr⟩
  rw [Program.ensures_done]
  generalize hout : found _ _ r = outcome
  cases outcome with
  | error f =>
    refine ⟨rfl, ?_⟩
    rintro found ⟨⟩
  | ok found =>
    have haccount := found_iff_has hr hout
    cases found with
    | false =>
      refine ⟨rfl, ?_⟩
      rintro found ⟨⟩
      exact ⟨nofun, fun hc => haccount.2 hc.1⟩
    | true =>
      simp only [StepsBefore, if_true, Container.doesExist, run_named_exists]
      refine ⟨rfl, ?_⟩
      rintro r' _ ⟨rfl, hr'⟩
      refine ⟨rfl, ?_⟩
      intro found hfound
      have hcontainer := found_iff_has hr' (Option.some.inj hfound)
      exact ⟨fun hf => ⟨haccount.1 rfl, hcontainer.1 hf⟩, fun hc => hcontainer.2 hc.2⟩

end Finding

/-! ### Removing a bucket -/

section Removing

variable {e e' : Estate} {cluster : AzureContext} {bucket : Bucket}

/-- What was deleted or not found is not there. -/
lemma not_has_of_deleted {path version : String} {r : Except Failure Unit}
    (h : e.Answers (.delete path version) r e') (hr : settle () r = .ok ()) : ¬ e'.Has path := by
  cases r with
  | ok u =>
    rcases h.1 with rfl | ⟨hne, _⟩
    · intro hp
      rw [Estate.has_erase, isWithin_self] at hp
      cases hp.1
    · exact absurd rfl hne
  | error f =>
    apply h.2 f rfl
    by_contra hf
    simp [settle, hf] at hr

/-- Telling whether a resource existed is deleting it. -/
lemma settle_of_found {name operation : String} {r : Except Failure Unit} {existed : Bool}
    (h : found name operation r = .ok existed) : settle () r = .ok () := by
  cases existed with
  | false =>
    obtain ⟨f, rfl, hf⟩ := found_eq_false.1 h
    simp [settle, hf]
  | true =>
    obtain ⟨u, rfl⟩ := found_eq_true.1 h
    rfl

/-- A container has an account. -/
def IsSupported (ids : ResourceIds) (e : Estate) : Prop :=
  e.Has ids.container → e.Has ids.storageAccount

/-- Whatever an account is deleted with, its container is deleted with too. -/
lemma IsSupported.delete {ids : ResourceIds} {path version : String} {r : Except Failure Unit}
    (hs : IsSupported ids e) (h : e.Answers (.delete path version) r e') :
    IsSupported ids e' := by
  rcases h.1 with rfl | ⟨_, rfl⟩
  · intro hc
    obtain ⟨hwithin, hc⟩ := Estate.has_erase.1 hc
    refine Estate.has_erase.2 ⟨?_, hs hc⟩
    rw [ids.container_eq] at hwithin
    by_contra haccount
    rw [isWithin_below_of_isWithin (Bool.not_eq_false _ ▸ haccount)] at hwithin
    cases hwithin
  · exact hs

/-- The state of an estate in the middle of a removal. -/
structure Removing (ids : ResourceIds) (e e' : Estate) : Prop where
  shrinks : e.Shrinks e'
  supported : IsSupported ids e'

lemma Removing.delete {ids : ResourceIds} {path version : String} {r : Except Failure Unit}
    {e₁ e₂ : Estate} (h : Removing ids e e₁) (hr : e₁.Answers (.delete path version) r e₂) :
    Removing ids e e₂ :=
  ⟨h.shrinks.trans hr.delete, h.supported.delete hr⟩

lemma ensures_endpoint_remove {ids : ResourceIds} (hs : IsSupported ids e) :
    (PrivateEndpoint.remove ids).run.Ensures managed (fun e' _ => Removing ids e e')
      (fun e' o => Removing ids e e' ∧ ∀ u, o = some (.ok u) →
        ¬ e'.Has ids.addressRecord ∧ ¬ e'.Has ids.privateEndpoint) e := by
  rw [PrivateEndpoint.remove, ensures_steps_bind, run_orAbsent_delete]
  refine ⟨⟨.refl e, hs⟩, ?_⟩
  intro r e₁ hr
  have h₁ : Removing ids e e₁ := Removing.delete ⟨.refl e, hs⟩ hr
  rw [Program.ensures_done]
  cases hout : settle () r with
  | error f =>
    refine ⟨h₁, ?_⟩
    rintro _ ⟨⟩
  | ok u =>
    simp only [StepsBefore, run_orAbsent_delete]
    refine ⟨h₁, ?_⟩
    intro r' e₂ hr'
    refine ⟨h₁.delete hr', ?_⟩
    intro u hout'
    have haddress : ¬ e₁.Has ids.addressRecord := not_has_of_deleted hr hout
    constructor
    · exact fun h => haddress (hr'.delete.resources _ h)
    · exact not_has_of_deleted hr' (Option.some.inj hout')

/-- A removal adds nothing wherever it stops. When it returns, nothing is left of a bucket whose
container had an account. -/
theorem ensures_remove (hs : IsSupported (.of cluster bucket.spec.name) e) :
    (Storage.remove cluster bucket).run.Ensures managed (fun e' _ => e.Shrinks e')
      (fun e' o => e.Shrinks e' ∧ ∀ u, o = some (.ok u) →
        ∀ namespaceName, bucket.metadata.namespaceName = some namespaceName →
          e'.IsClean (.of cluster bucket.spec.name) namespaceName) e := by
  rw [Storage.remove, ensures_steps_bind, namespaceOf]
  cases hn : bucket.metadata.namespaceName with
  | none =>
    refine ⟨.refl e, ?_⟩
    rintro _ ⟨⟩
  | some namespaceName =>
    change Program.Ensures managed _ _ (ExceptT.run (_ >>= _)) e
    rw [ensures_steps_bind, run_named, ensures_bind]
    refine (ensures_endpoint_remove hs).mono (fun _ _ h => h.shrinks) ?_
    rintro e₁ (_ | _ | u) ⟨h₁, hnetwork⟩
    · exact ⟨h₁.shrinks, nofun⟩
    · refine ⟨h₁.shrinks, ?_⟩
      rintro _ ⟨⟩
    obtain ⟨haddress, hendpoint⟩ := hnetwork u rfl
    simp only [EndsBefore, Except.mapError, Program.ensures_done, StepsBefore]
    rw [ensures_steps_bind, Account.remove, run_named_remove]
    refine ⟨h₁.shrinks, ?_⟩
    intro r e₂ hr
    have h₂ : Removing _ e e₂ := h₁.delete hr
    rw [Program.ensures_done]
    generalize hout : found _ _ r = outcome
    cases outcome with
    | error f =>
      refine ⟨h₂.shrinks, ?_⟩
      rintro _ ⟨⟩
    | ok existed =>
      have haccount := not_has_of_deleted hr (settle_of_found hout)
      refine ⟨h₂.shrinks, ?_⟩
      intro r' e₃ hr'
      have h₃ : e₂.Shrinks e₃ := by
        rcases hr' with rfl | ⟨_, rfl⟩
        · exact ⟨fun _ h => h, fun _ h => (List.mem_filter.1 h).1⟩
        · exact .refl _
      refine ⟨h₂.shrinks.trans h₃, ?_⟩
      rintro u ⟨⟩ _ ⟨⟩
      rcases hr' with rfl | ⟨h, _⟩
      · constructor
        · exact haccount
        · exact fun h => haccount (h₂.supported h)
        · exact fun h => hendpoint (hr.delete.resources _ h)
        · exact fun h => haddress (hr.delete.resources _ h)
        · intro h
          simpa [ResourceIds.of] using (List.mem_filter.1 h).2
      · exact absurd rfl h

/-- Removing a role adds nothing. -/
theorem ensures_role_remove :
    (AccessRole.remove cluster bucket).run.Ensures managed (fun e' _ => e.Shrinks e')
      (fun e' _ => e.Shrinks e') e := by
  unfold AccessRole.remove
  split
  · exact .refl e
  · rw [run_named, run_orAbsent_delete]
    refine ⟨.refl e, ?_⟩
    intro r e' hr
    exact hr.delete

end Removing

end BucketOperator.Azure
