import BucketOperator.Proofs.Program.Trace

/-!
# Scripts and where they break off

A script is the trace of a run in which all goes well. Some answers are fatal: they end a run at
once, with a failure of their own. So a run goes through a script, or it breaks off where a call of
the script got a fatal answer. The scripts of a sequence of steps are those of the steps, one after
the other.
-/

namespace BucketOperator

/-- The failure of an outcome, if it is one. -/
def failure? {ε α : Type} : Except ε α → Option ε
  | .ok _ => none
  | .error failure => some failure

lemma failure?_eq_some_iff {ε α : Type} {r : Except ε α} {failure : ε} :
    failure? r = some failure ↔ r = .error failure := by
  cases r <;> simp [failure?]

/-- Traces with the results they are to come to. -/
abbrev Scripts (I : Interface) (α : Type) := Trace I → α → Prop

/-- One script only. -/
def Scripts.only {I : Interface} {α : Type} (script : Trace I) (a : α) : Scripts I α :=
  fun t b => t = script ∧ b = a

/-- A script followed by one that depends on its result. -/
def Scripts.andThen {I : Interface} {α β : Type} (S : Scripts I α) (T : α → Scripts I β) :
    Scripts I β :=
  fun t b => ∃ t₁ t₂ a, t = t₁ ++ t₂ ∧ S t₁ a ∧ T a t₂ b

/-- A run gets through a whole script, or breaks off where a call of the script got a fatal
answer. -/
inductive Performance {I : Interface} {ε α : Type} (fatal? : Exchange I → Option ε)
    (script : Trace I) (a : α) : Trace I → Except ε α → Prop where
  | whole : Performance fatal? script a script (.ok a)
  | broken {before after : Trace I} {e failed : Exchange I} {failure : ε}
      (hscript : script = before ++ e :: after) (hcall : failed.call = e.call)
      (hfatal : fatal? failed = some failure) :
      Performance fatal? script a (before ++ [failed]) (.error failure)

namespace Performance

variable {I : Interface} {ε α β : Type} {fatal? : Exchange I → Option ε} {s s' t : Trace I} {a : α}
  {b : β} {r : Except ε β} {failure : ε}

/-- A run that has broken off had not come to what follows. -/
lemma append_right (h : Performance fatal? s a t (.error failure)) :
    Performance fatal? (s ++ s') b t (.error failure) := by
  cases h with
  | broken hscript hcall hfatal =>
    subst hscript
    exact .broken (List.append_assoc _ _ _) hcall hfatal

/-- A run goes on with what follows. -/
lemma append_left (h : Performance fatal? s' b t r) :
    Performance fatal? (s ++ s') b (s ++ t) r := by
  cases h with
  | whole => exact .whole
  | @broken before after e failed failure hscript hcall hfatal =>
    subst hscript
    have hbroken : Performance fatal? (s ++ before ++ e :: after) b (s ++ before ++ [failed])
        (.error failure) := .broken rfl hcall hfatal
    rwa [List.append_assoc, List.append_assoc] at hbroken

/-- A run breaks off in the first part of a script or goes on with the second. -/
lemma of_append (h : Performance fatal? (s ++ s') b t r) (a : α) :
    (∃ failure, r = .error failure ∧ Performance fatal? s a t (.error failure)) ∨
      ∃ t', t = s ++ t' ∧ Performance fatal? s' b t' r := by
  cases h with
  | whole => exact .inr ⟨s', rfl, .whole⟩
  | broken hscript hcall hfatal =>
    rcases List.append_eq_append_iff.1 hscript with ⟨before, rfl, rfl⟩ | ⟨rest, rfl, hrest⟩
    · exact .inr ⟨before ++ [_], List.append_assoc _ _ _, .broken rfl hcall hfatal⟩
    · cases rest with
      | nil =>
        refine .inr ⟨[_], by rw [List.append_nil], ?_⟩
        exact @broken _ _ _ _ _ _ [] _ _ _ _ hrest.symm hcall hfatal
      | cons e rest =>
        obtain ⟨rfl, -⟩ := List.cons.inj hrest
        exact .inl ⟨_, rfl, .broken rfl hcall hfatal⟩

/-- An empty script cannot be broken off. -/
lemma of_nil (h : Performance fatal? [] b t r) : t = [] ∧ r = .ok b := by
  cases h with
  | whole => exact ⟨rfl, rfl⟩
  | broken hscript => exact absurd hscript (by simp)

/-- A script of one call is broken off at this call if at all. -/
lemma of_singleton {e : Exchange I} (h : Performance fatal? [e] b t r) :
    (t = [e] ∧ r = .ok b) ∨ ∃ failed failure, failed.call = e.call ∧
      fatal? failed = some failure ∧ t = [failed] ∧ r = .error failure := by
  cases h with
  | whole => exact .inl ⟨rfl, rfl⟩
  | @broken before after _ failed failure hscript hcall hfatal =>
    cases before with
    | nil =>
      obtain ⟨rfl, -⟩ := List.cons.inj hscript
      exact .inr ⟨failed, failure, hcall, hfatal, rfl, rfl⟩
    | cons e' before => exact absurd (List.cons.inj hscript).2 (by simp)

/-- A run of a script without fatal answers succeeds if it meets none. -/
lemma eq_ok_iff (h : Performance fatal? s b t r) (hs : ∀ e ∈ s, fatal? e = none) :
    r = .ok b ↔ ∀ e ∈ t, fatal? e = none := by
  cases h with
  | whole => exact iff_of_true rfl hs
  | @broken before after e failed failure hscript hcall hfatal =>
    refine iff_of_false (by rintro ⟨⟩) fun h => ?_
    have hnone := h failed (List.mem_append_right _ (List.mem_singleton_self _))
    rw [hfatal] at hnone
    cases hnone

end Performance

namespace Program

instance {I : Interface} : LawfulMonad (Program I) :=
  LawfulMonad.mk' (Program I) bind_done (fun _ _ => rfl) fun p f g => bind_assoc p f g

variable {I : Interface} {ε α β γ : Type} {fatal? : Exchange I → Option ε}
  {S S' R R' : Scripts I α} {T Q : α → Scripts I β} {C C' : Trace I → Prop}
  {D : α → Trace I → Prop} {p : Program I (Except ε α)} {x : ExceptT ε (Program I) α}
  {f : α → ExceptT ε (Program I) β}

/-- Scripts tell what a program does: a run that has ended performs one of `S`, every performance of
one of `R` is a run, and a run is cut only after a trace of `C`. -/
structure IsScripted (fatal? : Exchange I → Option ε) (S R : Scripts I α) (C : Trace I → Prop)
    (p : Program I (Except ε α)) : Prop where
  keeps : ∀ t r, p.Yields t r → ∃ script a, S script a ∧ Performance fatal? script a t r
  performs : ∀ script a, R script a → ∀ t r, Performance fatal? script a t r → p.Yields t r
  cut : ∀ t, p.After t .cut → C t

/-- A program has one script. -/
abbrev Follows (fatal? : Exchange I → Option ε) (script : Trace I) (a : α)
    (p : Program I (Except ε α)) : Prop :=
  p.IsScripted fatal? (.only script a) (.only script a) fun _ => False

namespace IsScripted

lemma mono (h : p.IsScripted fatal? S R C) (hS : ∀ t a, S t a → S' t a)
    (hR : ∀ t a, R' t a → R t a) (hC : ∀ t, C t → C' t) : p.IsScripted fatal? S' R' C' where
  keeps t r ht := by
    obtain ⟨script, a, hscript, hperformance⟩ := h.keeps t r ht
    exact ⟨script, a, hS script a hscript, hperformance⟩
  performs script a hscript := h.performs script a (hR script a hscript)
  cut t ht := hC t (h.cut t ht)

lemma done (a : α) : (Program.done (.ok a)).Follows fatal? [] a where
  keeps t r ht := by
    obtain ⟨rfl, rfl⟩ := yields_done_iff.1 ht
    exact ⟨[], a, ⟨rfl, rfl⟩, .whole⟩
  performs := by
    rintro _ _ ⟨rfl, rfl⟩ t r hperformance
    obtain ⟨rfl, rfl⟩ := hperformance.of_nil
    exact .here _
  cut _ ht := not_done_after_cut ht

lemma ofCut (hR : ∀ t a, ¬ R t a) (hC : C []) : (Program.cut (I := I)).IsScripted fatal? S R C where
  keeps _ _ ht := absurd ht not_yields_cut
  performs script a hscript := absurd hscript (hR script a)
  cut t ht := by
    obtain ⟨rfl, -⟩ := after_cut_iff.1 ht
    exact hC

/-- A call that decides the outcome. -/
lemma ask {c : I.Call} {outcome : I.Answer c → Except ε α} {r₀ : I.Answer c} {a₀ : α}
    (hfatal : ∀ r, fatal? ⟨c, r⟩ = failure? (outcome r)) (hok : outcome r₀ = .ok a₀) :
    (Program.ask c fun r => .done (outcome r)).IsScripted fatal?
      (fun t a => ∃ r, t = [⟨c, r⟩] ∧ outcome r = .ok a)
      (fun t a => ∃ r, t = [⟨c, r⟩] ∧ outcome r = .ok a) fun _ => False where
  keeps t o ht := by
    obtain ⟨r, _, rfl, h⟩ := yields_ask_iff.1 ht
    obtain ⟨rfl, rfl⟩ := yields_done_iff.1 h
    cases houtcome : outcome r with
    | ok a => exact ⟨_, a, ⟨r, rfl, houtcome⟩, .whole⟩
    | error failure =>
      have hbroken : fatal? ⟨c, r⟩ = some failure :=
        (hfatal r).trans (failure?_eq_some_iff.2 houtcome)
      exact ⟨[⟨c, r₀⟩], a₀, ⟨r₀, rfl, hok⟩,
        @Performance.broken _ _ _ _ _ _ [] [] _ _ _ rfl rfl hbroken⟩
  performs := by
    rintro _ a ⟨r, rfl, hr⟩ t o hperformance
    refine yields_ask_iff.2 ?_
    rcases hperformance.of_singleton with ⟨rfl, rfl⟩ | ⟨⟨d, r'⟩, failure, rfl, hbroken, rfl, rfl⟩
    · exact ⟨r, [], rfl, yields_done_iff.2 ⟨rfl, hr.symm⟩⟩
    · have houtcome := failure?_eq_some_iff.1 ((hfatal r').symm.trans hbroken)
      exact ⟨r', [], rfl, yields_done_iff.2 ⟨rfl, houtcome.symm⟩⟩
  cut t ht := by
    obtain ⟨r, t', -, h⟩ := ask_after_cut_iff.1 ht
    exact not_done_after_cut h

/-- A call that decides the outcome and has to be granted. -/
lemma askGranted {c : I.Call} {outcome : I.Answer c → Except ε α} (granted : α → I.Answer c)
    (a₀ : α) (hfatal : ∀ r, fatal? ⟨c, r⟩ = failure? (outcome r))
    (hok : ∀ r a, outcome r = .ok a ↔ r = granted a) :
    (Program.ask c fun r => .done (outcome r)).IsScripted fatal?
      (fun t a => t = [⟨c, granted a⟩]) (fun t a => t = [⟨c, granted a⟩]) fun _ => False := by
  refine (ask hfatal ((hok _ a₀).2 rfl)).mono ?_ ?_ fun _ h => h
  · rintro _ a ⟨r, rfl, hr⟩
    rw [(hok r a).1 hr]
  · rintro _ a rfl
    exact ⟨granted a, rfl, (hok _ a).2 rfl⟩

/-- A script of steps that have nothing to return is the only one. -/
lemma follows {script : Trace I} {p : Program I (Except ε Unit)}
    (h : p.IsScripted fatal? (fun t _ => t = script) (fun t _ => t = script) fun _ => False) :
    p.Follows fatal? script () :=
  h.mono (fun _ _ ht => ⟨ht, rfl⟩) (fun _ _ ht => ht.1) fun _ ht => ht

/-- What can be performed is one of the scripts. -/
lemma script (h : p.IsScripted fatal? S R C) {t : Trace I} {a : α} (ht : R t a) : S t a := by
  obtain ⟨_, _, hscript, ⟨⟩⟩ := h.keeps t (.ok a) (h.performs t a ht t _ .whole)
  exact hscript

/-- Steps have their scripts one after the other, if every script of the first ones can be gone on
with. -/
lemma bind (hx : x.run.IsScripted fatal? S R C)
    (hf : ∀ t a, S t a → (f a).run.IsScripted fatal? (T a) (Q a) (D a))
    (hgoesOn : ∀ t a, S t a → ∃ t' b, T a t' b) :
    (x >>= f).run.IsScripted fatal? (S.andThen T) (R.andThen Q)
      fun t => C t ∨ ∃ t₁ t₂ a, t = t₁ ++ t₂ ∧ S t₁ a ∧ D a t₂ where
  keeps t r ht := by
    rcases yields_steps_bind_iff.1 ht with ⟨failure, h, rfl⟩ | ⟨t₁, t₂, a, rfl, h₁, h₂⟩
    · obtain ⟨script, a, hscript, hperformance⟩ := hx.keeps _ _ h
      obtain ⟨rest, b, hrest⟩ := hgoesOn script a hscript
      exact ⟨script ++ rest, b, ⟨script, rest, a, rfl, hscript, hrest⟩, hperformance.append_right⟩
    · obtain ⟨script, a, hscript, ⟨⟩⟩ := hx.keeps _ _ h₁
      obtain ⟨rest, b, hrest, hperformance⟩ := (hf _ a hscript).keeps _ _ h₂
      exact ⟨t₁ ++ rest, b, ⟨t₁, rest, a, rfl, hscript, hrest⟩, hperformance.append_left⟩
  performs := by
    rintro _ b ⟨script, rest, a, rfl, hscript, hrest⟩ t r hperformance
    rcases hperformance.of_append a with ⟨failure, rfl, hbroken⟩ | ⟨t₂, rfl, hwhole⟩
    · exact yields_steps_bind_iff.2
        (.inl ⟨failure, hx.performs script a hscript t _ hbroken, rfl⟩)
    · exact yields_steps_bind_iff.2 (.inr ⟨script, t₂, a, rfl,
        hx.performs script a hscript _ _ .whole,
        (hf script a (hx.script hscript)).performs rest b hrest t₂ r hwhole⟩)
  cut t ht := by
    rw [ExceptT.run_bind, bind_eq, bind_after_cut_iff] at ht
    rcases ht with ht | ⟨t₁, t₂, failure | a, rfl, h₁, h₂⟩
    · exact .inl (hx.cut t ht)
    · exact absurd h₂ not_done_after_cut
    · obtain ⟨script, a, hscript, ⟨⟩⟩ := hx.keeps _ _ h₁
      exact .inr ⟨t₁, t₂, a, rfl, hscript, (hf _ a hscript).cut t₂ h₂⟩

end IsScripted

end Program

end BucketOperator
