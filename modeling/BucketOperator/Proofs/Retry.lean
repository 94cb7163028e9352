import BucketOperator.Proofs.Program.Guarantee
import BucketOperator.Retry

/-!
# Runs of repeated attempts

A run of repeated attempts is a chain of attempts that asked for another one, with a last attempt
that did not or that found the backoff spent. The outcome is that of the last attempt. Only a run
of as many attempts as are allowed is cut.
-/

namespace BucketOperator.Retry

open Program (yields_bind_iff yields_ask_iff yields_done_iff)

variable {α : Type} {attempt : Program World α} {again : α → Bool}

/-- What is answered in a run of attempts, with the outcome. -/
inductive Attempts (attempt : Program World α) (again : α → Bool) : Trace World → α → Prop where
  /-- The outcome does not ask for another attempt. -/
  | accepted {t : Trace World} {a : α} (h : attempt.Yields t a) (ha : again a = false) :
      Attempts attempt again t a
  /-- The backoff is spent. -/
  | spent {t : Trace World} {a : α} {now : Nat} (h : attempt.Yields t a) (ha : again a = true) :
      Attempts attempt again (t ++ [⟨.clock, now⟩]) a
  | repeated {t u : Trace World} {a b : α} {now duration : Nat} (h : attempt.Yields t a)
      (ha : again a = true) (rest : Attempts attempt again u b) :
      Attempts attempt again (t ++ ⟨.clock, now⟩ :: ⟨.sleep duration, ()⟩ :: u) b

/-! ### Attempts as programs of the world -/

lemma inWorld_attemptFrom_zero {start : Nat} {backoff : Backoff} :
    inWorld attempt (attemptFrom again start 0 backoff) = .cut := rfl

/-- What follows an attempt. -/
def proceed (attempt : Program World α) (again : α → Bool) (start patience : Nat)
    (backoff : Backoff) (outcome : α) : Program World α :=
  if again outcome then
    .ask .clock fun (now : Nat) =>
      if backoff.isSpent (now - start) then .done outcome
      else
        match backoff.advance? with
        | none => .cut
        | some next =>
          .ask (.sleep backoff.current) fun _ =>
            inWorld attempt (attemptFrom again start patience next)
  else .done outcome

lemma inWorld_attemptFrom_succ {start patience : Nat} {backoff : Backoff} :
    inWorld attempt (attemptFrom again start (patience + 1) backoff) =
      attempt.bind (proceed attempt again start patience backoff) := by
  change attempt.bind _ = _
  congr 1
  funext outcome
  simp only [proceed]
  cases again outcome with
  | false => rfl
  | true =>
    simp only [if_true]
    change Program.ask _ _ = Program.ask _ _
    congr 1
    funext (now : Nat)
    change Program.substitute _ (if backoff.isSpent (now - start) = true then _ else _) = _
    cases backoff.isSpent (now - start) with
    | true => rfl
    | false =>
      cases backoff.advance? with
      | none => rfl
      | some next => rfl

lemma inWorld_persist {patience : Nat} {backoff : Backoff} :
    inWorld attempt (persist patience again backoff) =
      .ask .clock fun (start : Nat) =>
        inWorld attempt (attemptFrom again start patience backoff) := rfl

/-! ### Completed runs -/

lemma attempts_of_yields {start patience : Nat} {backoff : Backoff} {t : Trace World} {a : α}
    (h : (inWorld attempt (attemptFrom again start patience backoff)).Yields t a) :
    Attempts attempt again t a := by
  induction patience generalizing backoff t with
  | zero =>
    rw [inWorld_attemptFrom_zero] at h
    simp at h
  | succ patience ih =>
    rw [inWorld_attemptFrom_succ, yields_bind_iff] at h
    obtain ⟨t₁, t₂, b, rfl, h₁, h₂⟩ := h
    cases hb : again b with
    | false =>
      simp only [proceed, hb, Bool.false_eq_true, if_false] at h₂
      obtain ⟨rfl, rfl⟩ := yields_done_iff.1 h₂
      rw [List.append_nil]
      exact .accepted h₁ hb
    | true =>
      simp only [proceed, hb, if_true] at h₂
      obtain ⟨now, t₃, rfl, h₃⟩ := yields_ask_iff.1 h₂
      split at h₃
      · obtain ⟨rfl, rfl⟩ := yields_done_iff.1 h₃
        exact .spent h₁ hb
      · split at h₃
        · simp at h₃
        · obtain ⟨_, t₄, rfl, h₄⟩ := yields_ask_iff.1 h₃
          exact .repeated h₁ hb (ih h₄)

/-- A run of attempts reads the time and then makes its attempts. -/
theorem yields_persist {patience : Nat} {backoff : Backoff} {t : Trace World} {a : α}
    (h : (inWorld attempt (persist patience again backoff)).Yields t a) :
    ∃ (start : Nat) (u : Trace World), t = ⟨.clock, start⟩ :: u ∧
      Attempts attempt again u a := by
  rw [inWorld_persist] at h
  obtain ⟨start, u, rfl, hu⟩ := yields_ask_iff.1 h
  exact ⟨start, u, rfl, attempts_of_yields hu⟩

/-- Whether an exchange passes time between attempts. -/
def IsWait (e : Exchange World) : Prop :=
  e.call = .clock ∨ ∃ duration, e.call = .sleep duration

/-- The outcome of a run is that of one attempt. All other exchanges belong to attempts that asked
for another one, or pass the time between them. -/
theorem Attempts.split {t : Trace World} {a : α} (h : Attempts attempt again t a) :
    ∃ before u after, t = before ++ u ++ after ∧ attempt.Yields u a ∧
      ∀ e ∈ before ++ after,
        IsWait e ∨ ∃ v b, attempt.Yields v b ∧ again b = true ∧ e ∈ v := by
  induction h with
  | @accepted t a h ha =>
    refine ⟨[], t, [], by simp, h, ?_⟩
    simp
  | @spent t a now h ha =>
    refine ⟨[], t, [⟨.clock, now⟩], by simp, h, ?_⟩
    intro e he
    cases List.mem_singleton.1 he
    exact .inl (.inl rfl)
  | @repeated t u a b now duration h ha rest ih =>
    obtain ⟨before, v, after, rfl, hv, hothers⟩ := ih
    refine ⟨t ++ ⟨.clock, now⟩ :: ⟨.sleep duration, ()⟩ :: before, v, after, by simp, hv, ?_⟩
    intro e he
    rw [List.append_assoc, List.cons_append, List.cons_append, List.mem_append, List.mem_cons,
      List.mem_cons] at he
    rcases he with he | rfl | rfl | he
    · exact .inr ⟨t, a, h, ha, he⟩
    · exact .inl (.inl rfl)
    · exact .inl (.inr ⟨duration, rfl⟩)
    · exact hothers e he

/-! ### Runs that are cut -/

/-- Backoffs that can be advanced for ever. -/
def Endless (P : Backoff → Prop) : Prop :=
  ∀ backoff, P backoff → ∃ next, backoff.advance? = some next ∧ P next

/-- A run of attempts is cut only after as many attempts as it may take, all of which asked for
another one. -/
lemma le_countP_of_after_cut {P : Backoff → Prop} {asked : Exchange World → Bool}
    (hP : Endless P) (hwhole : ∀ t, ¬ attempt.After t .cut)
    (hasked : ∀ t a, attempt.Yields t a → again a = true → 1 ≤ t.countP asked)
    {start patience : Nat} {backoff : Backoff} {t : Trace World} (hb : P backoff)
    (h : (inWorld attempt (attemptFrom again start patience backoff)).After t .cut) :
    patience ≤ t.countP asked := by
  induction patience generalizing backoff t with
  | zero => exact Nat.zero_le _
  | succ patience ih =>
    rw [inWorld_attemptFrom_succ, Program.bind_after_cut_iff] at h
    rcases h with h | ⟨t₁, t₂, a, rfl, h₁, h₂⟩
    · exact absurd h (hwhole t)
    cases ha : again a with
    | false => simp [proceed, ha] at h₂
    | true =>
      obtain ⟨next, hnext, hP'⟩ := hP backoff hb
      simp only [proceed, ha, if_true, hnext] at h₂
      obtain ⟨now, t₃, rfl, h₃⟩ := Program.ask_after_cut_iff.1 h₂
      split at h₃
      · simp at h₃
      · obtain ⟨u, t₄, rfl, h₄⟩ := Program.ask_after_cut_iff.1 h₃
        have hfirst := hasked t₁ a h₁ ha
        have hrest := ih hP' h₄
        simp only [List.countP_append, List.countP_cons]
        omega

lemma le_countP_of_persist_cut {P : Backoff → Prop} {asked : Exchange World → Bool}
    (hP : Endless P) (hwhole : ∀ t, ¬ attempt.After t .cut)
    (hasked : ∀ t a, attempt.Yields t a → again a = true → 1 ≤ t.countP asked)
    {patience : Nat} {backoff : Backoff} {t : Trace World} (hb : P backoff)
    (h : (inWorld attempt (persist patience again backoff)).After t .cut) :
    patience ≤ t.countP asked := by
  rw [inWorld_persist] at h
  obtain ⟨start, u, rfl, hu⟩ := Program.ask_after_cut_iff.1 h
  have hcount := le_countP_of_after_cut hP hwhole hasked hb hu
  rw [List.countP_cons]
  omega

/-! ### Guarantees -/

section Guarantees

open Program (ensures_bind Returns)

variable {σ : Type} {B : Behaviour World σ} {asks : σ → World.Call → Prop} {P C : σ → Prop}
  {Q : σ → α → Prop} {s : σ} {start patience : Nat} {backoff : Backoff}

/-- The time may be read, and passed, wherever something holds, which goes on to hold. -/
structure Idles (B : Behaviour World σ) (asks : σ → World.Call → Prop) (P : σ → Prop) : Prop where
  clock : ∀ s, P s → asks s .clock ∧ ∀ r s', B s .clock r s' → P s'
  sleep : ∀ s duration, P s → asks s (.sleep duration) ∧ ∀ r s', B s (.sleep duration) r s' → P s'

/-- What an attempt is to end in. One that asks for another is either followed by one, or is the
last one once the time was read. -/
def EndsAttempt (B : Behaviour World σ) (again : α → Bool) (P : σ → Prop) (Q : σ → α → Prop) (s : σ)
    (a : α) : Prop :=
  (again a = false → Q s a) ∧
    (again a = true → P s ∧ ∀ (now : Nat) s', B s .clock now s' → Q s' a)

/-- What an attempt guarantees wherever one is made is guaranteed by repeated attempts. -/
lemma ensures_attemptFrom (hidle : Idles B asks P) (hcut : ∀ s, P s → C s)
    (hattempt : ∀ s, P s → attempt.Ensures B asks (Returns (EndsAttempt B again P Q) C) s)
    (hs : P s) :
    (inWorld attempt (attemptFrom again start patience backoff)).Ensures B asks (Returns Q C)
      s := by
  induction patience generalizing s backoff with
  | zero => exact hcut s hs
  | succ patience ih =>
    rw [inWorld_attemptFrom_succ, ensures_bind]
    refine (hattempt s hs).mono (fun _ _ h => h) ?_
    rintro s₁ (_ | a) ha
    · exact ha
    obtain ⟨haccepted, hagain⟩ := ha
    change (proceed attempt again start patience backoff a).Ensures B asks _ s₁
    unfold proceed
    split
    next hrepeat =>
      obtain ⟨hs₁, hspent⟩ := hagain hrepeat
      obtain ⟨hask, hnext⟩ := hidle.clock s₁ hs₁
      refine ⟨hask, ?_⟩
      intro (now : Nat) s₂ hnow
      have hs₂ : P s₂ := hnext now s₂ hnow
      change Program.Ensures B asks _ (if backoff.isSpent (now - start) = true then _ else _) s₂
      split
      · exact hspent now s₂ hnow
      · split
        · exact hcut s₂ hs₂
        · obtain ⟨hask, hnext⟩ := hidle.sleep s₂ backoff.current hs₂
          refine ⟨hask, ?_⟩
          intro r s₃ hslept
          exact ih (hnext r s₃ hslept)
    next hlast => exact haccepted (eq_false_of_ne_true hlast)

theorem ensures_persist (hidle : Idles B asks P) (hcut : ∀ s, P s → C s)
    (hattempt : ∀ s, P s → attempt.Ensures B asks (Returns (EndsAttempt B again P Q) C) s)
    (hs : P s) :
    (inWorld attempt (persist patience again backoff)).Ensures B asks (Returns Q C) s := by
  rw [inWorld_persist]
  obtain ⟨hask, hnext⟩ := hidle.clock s hs
  refine ⟨hask, ?_⟩
  intro start s' hstart
  exact ensures_attemptFrom hidle hcut hattempt (hnext start s' hstart)

/-- Nothing happens in a world while time passes. -/
structure IsIdle (B : Behaviour World σ) : Prop where
  clock : ∀ s r s', B s .clock r s' → s' = s
  sleep : ∀ s duration r s', B s (.sleep duration) r s' → s' = s

/-- Where nothing happens between them, attempts may be repeated if they may be made. -/
theorem ensures_persist_of_isIdle (hB : IsIdle B) (hclock : ∀ s, P s → asks s .clock)
    (hsleep : ∀ s duration, P s → asks s (.sleep duration))
    (hattempt : ∀ s, P s → attempt.Ensures B asks (Returns (fun s a => P s ∧ Q s a) P) s)
    (hs : P s) :
    (inWorld attempt (persist patience again backoff)).Ensures B asks
      (Returns (fun s a => P s ∧ Q s a) P) s := by
  refine ensures_persist ⟨?_, ?_⟩ (fun _ h => h) ?_ hs
  · refine fun s hs => ⟨hclock s hs, ?_⟩
    intro r s' h
    exact hB.clock s r s' h ▸ hs
  · refine fun s duration hs => ⟨hsleep s duration hs, ?_⟩
    intro r s' h
    exact hB.sleep s duration r s' h ▸ hs
  · intro s hs
    refine (hattempt s hs).mono (fun _ _ h => h) ?_
    rintro s' (_ | a) h
    · exact h
    · refine ⟨fun _ => h, fun _ => ⟨h.1, ?_⟩⟩
      intro now s'' hclock
      exact hB.clock s' now s'' hclock ▸ h

end Guarantees

/-! ### The backoff of calls -/

/-- The waiting times of calls, in milliseconds. -/
def callWaits : List Nat := [100, 200, 400, 800, 1600, 3200, 6400, 10000]

/-- A backoff of calls at one of its waiting times. -/
def IsForCalls (backoff : Backoff) : Prop :=
  ∃ wait ∈ callWaits,
    backoff = { Backoff.forCalls with current := wait * Duration.nanosPerMilli }

lemma isForCalls_forCalls : IsForCalls Backoff.forCalls := ⟨100, by decide, rfl⟩

lemma forCalls_advance : ∀ wait ∈ callWaits, ∃ next ∈ callWaits,
    Backoff.advance? { Backoff.forCalls with current := wait * Duration.nanosPerMilli } =
      some { Backoff.forCalls with current := next * Duration.nanosPerMilli } := by
  decide +kernel

/-- The backoff of calls can be advanced for ever. -/
lemma endless_isForCalls : Endless IsForCalls := by
  rintro _ ⟨wait, hwait, rfl⟩
  obtain ⟨next, hnext, h⟩ := forCalls_advance wait hwait
  exact ⟨_, h, next, hnext, rfl⟩

end BucketOperator.Retry
