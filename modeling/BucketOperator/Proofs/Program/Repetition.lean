import BucketOperator.Proofs.Program.Guarantee
import Mathlib.Logic.Relation

/-!
# Runs after one another

A run may stop anywhere, and others may follow it. What a program keeps up wherever it stops is kept
up by any number of runs, and what it is for is so after the last one that succeeds.
-/

namespace BucketOperator.Program

variable {I J : Interface} {σ α β : Type} {B : Behaviour I σ} {p : Program I α} {s s' : σ}

/-- A run of a program brings a world from one state to another, wherever the run stops. -/
def Brings (B : Behaviour I σ) (p : Program I α) (s s' : σ) : Prop :=
  ∃ t q, p.After t q ∧ Along B s t s'

/-- What holds wherever a run may stop holds where it does. -/
lemma Ensures.brings {P : σ → Prop} (h : p.Ensures B (fun s _ => P s) (fun s _ => P s) s)
    (hp : Brings B p s s') : P s' := by
  obtain ⟨t, q, hq, ht⟩ := hp
  exact (h.along hq ht).holds

/-! ### What a run is for -/

/-- A program keeps something up wherever it stops, and what it is for is so once it succeeds. -/
def Achieves {ε : Type} (B : Behaviour I σ) (P Q : σ → Prop) (p : Program I (Except ε Unit))
    (s : σ) : Prop :=
  p.Ensures B (fun s _ => P s) (fun s o => P s ∧ (o = some (.ok ()) → Q s)) s

section Achieving

variable {ε : Type} {P Q : σ → Prop} {p : Program I (Except ε Unit)}

lemma achieves_ok (hP : P s) (hQ : Q s) :
    (Program.done (.ok ()) : Program I (Except ε Unit)).Achieves B P Q s :=
  ⟨hP, fun _ => hQ⟩

lemma achieves_error {failure : ε} (hP : P s) :
    (Program.done (.error failure) : Program I (Except ε Unit)).Achieves B P Q s :=
  ⟨hP, nofun⟩

/-- Once the first of two programs has done what it is for, the second one goes on from there. -/
lemma Achieves.bind {R : σ → Prop} {f : Except ε Unit → Program I (Except ε Unit)}
    (hp : p.Achieves B P R s) (hok : ∀ s', P s' → R s' → (f (.ok ())).Achieves B P Q s')
    (herror : ∀ failure, f (.error failure) = .done (.error failure)) :
    (p.bind f).Achieves B P Q s := by
  rw [Achieves, ensures_bind]
  refine Ensures.mono hp (fun _ _ h => h) ?_
  rintro s' (_ | failure | u) ⟨hP, hR⟩
  · exact ⟨hP, nofun⟩
  · rw [EndsBefore, herror]
    exact achieves_error hP
  · exact hok s' hP (hR rfl)

lemma Achieves.brings (h : p.Achieves B P Q s) (hp : Brings B p s s') : P s' :=
  (Ensures.mono h (fun _ _ h => h) fun _ _ h => h.1).brings hp

lemma Achieves.along {t : Trace I} (h : p.Achieves B P Q s) (hp : p.Yields t (.ok ()))
    (ht : Along B s t s') : P s' ∧ Q s' := by
  obtain ⟨hP, hQ⟩ := Ensures.along h hp ht
  exact ⟨hP, hQ rfl⟩

end Achieving

/-! ### Calls that are programs -/

lemma substitute_bind (serve : (c : I.Call) → Program J (I.Answer c)) (p : Program I α)
    (f : α → Program I β) :
    (p.bind f).substitute serve = (p.substitute serve).bind fun a => (f a).substitute serve := by
  induction p with
  | done a => rfl
  | cut => rfl
  | ask c next ih => simp [substitute, bind_assoc, ih]

end BucketOperator.Program
