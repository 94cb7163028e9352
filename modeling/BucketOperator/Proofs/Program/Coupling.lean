import BucketOperator.Proofs.Program.Asking
import Mathlib.Data.List.Forall2

/-!
# Two runs side by side

What a program does with something it must not show is seen by comparing two of its runs. They are
told the same as far as they ask the same, and then they are to ask the same again. A comparison
says which calls count as the same after what has been told, and which answers do.
-/

namespace BucketOperator

/-- What counts as the same in two runs: calls, by what the first run was told before, and
exchanges. -/
structure Comparison (I : Interface) where
  calls : Trace I → I.Call → I.Call → Prop
  exchanges : Exchange I → Exchange I → Prop

/-- Two outcomes are the same failure, or successes that are related. -/
inductive Agree {ε α β : Type} (S : α → β → Prop) : Except ε α → Except ε β → Prop where
  | error (failure : ε) : Agree S (.error failure) (.error failure)
  | ok {a : α} {b : β} (h : S a b) : Agree S (.ok a) (.ok b)

lemma agree_eq_iff {ε α : Type} {outcome outcome' : Except ε α} :
    Agree Eq outcome outcome' ↔ outcome = outcome' := by
  constructor
  · intro h
    cases h with
    | error failure => rfl
    | ok h => rw [h]
  · rintro rfl
    cases outcome with
    | error failure => exact .error failure
    | ok a => exact .ok rfl

lemma agree_refl {ε α : Type} {S : α → α → Prop} (hS : ∀ a, S a a) :
    ∀ outcome : Except ε α, Agree S outcome outcome
  | .error failure => .error failure
  | .ok a => .ok (hS a)

lemma Agree.mono {ε α β : Type} {S T : α → β → Prop} {outcome : Except ε α} {outcome' : Except ε β}
    (h : Agree S outcome outcome') (hS : ∀ a b, S a b → T a b) : Agree T outcome outcome' := by
  cases h with
  | error failure => exact .error failure
  | ok h => exact .ok (hS _ _ h)

/-- Outcomes after which others follow. -/
lemma Agree.bind {ε α β γ δ : Type} {S : α → β → Prop} {T : γ → δ → Prop} {outcome : Except ε α}
    {outcome' : Except ε β} {f : α → Except ε γ} {g : β → Except ε δ}
    (h : Agree S outcome outcome') (hf : ∀ a b, S a b → Agree T (f a) (g b)) :
    Agree T (outcome >>= f) (outcome' >>= g) := by
  cases h with
  | error failure => exact .error failure
  | ok h => exact hf _ _ h

lemma agree_bind_self {ε α β γ : Type} {S : β → γ → Prop} {outcome : Except ε α}
    {f : α → Except ε β} {g : α → Except ε γ} (h : ∀ a, Agree S (f a) (g a)) :
    Agree S (outcome >>= f) (outcome >>= g) :=
  (agree_eq_iff.2 rfl).bind fun a _ hab => hab ▸ h a

namespace Program

variable {I J : Interface} {α β γ δ : Type} {K : Comparison I} {R : Trace I → α → β → Prop}
  {u : Trace I} {p : Program I α} {q : Program I β}

/-- Two programs ask the same as long as they are told the same, and come to related results. -/
def Coupled (K : Comparison I) (R : Trace I → α → β → Prop) :
    Trace I → Program I α → Program I β → Prop
  | u, .done a, .done b => R u a b
  | u, .ask c next, .ask d next' => K.calls u c d ∧
      ∀ r r', K.exchanges ⟨c, r⟩ ⟨d, r'⟩ → Coupled K R (u ++ [⟨c, r⟩]) (next r) (next' r')
  | _, .cut, .cut => True
  | _, _, _ => False

lemma Coupled.mono {S : Trace I → α → β → Prop} (h : Coupled K R u p q)
    (hS : ∀ u a b, R u a b → S u a b) : Coupled K S u p q := by
  induction p generalizing u q with
  | done a =>
    cases q with
    | done b => exact hS u a b h
    | ask d next' => exact h
    | cut => exact h
  | cut => cases q <;> exact h
  | ask c next ih =>
    cases q with
    | done b => exact h
    | cut => exact h
    | ask d next' => exact ⟨h.1, fun r r' hr => ih r (h.2 r r' hr)⟩

/-- Coupled programs after which others follow. What was told before is still known then. -/
lemma Coupled.bind {S : Trace I → γ → δ → Prop} {f : α → Program I γ} {g : β → Program I δ}
    (h : Coupled K R u p q)
    (hf : ∀ v a b, R (u ++ v) a b → Coupled K S (u ++ v) (f a) (g b)) :
    Coupled K S u (p.bind f) (q.bind g) := by
  induction p generalizing u q with
  | done a =>
    cases q with
    | done b =>
      have hfollow := hf [] a b
      rw [List.append_nil] at hfollow
      exact hfollow h
    | ask d next' => exact h.elim
    | cut => exact h.elim
  | cut =>
    cases q with
    | cut => trivial
    | done b => exact h.elim
    | ask d next' => exact h.elim
  | ask c next ih =>
    cases q with
    | done b => exact h.elim
    | cut => exact h.elim
    | ask d next' =>
      refine ⟨h.1, fun r r' hr => ih r (h.2 r r' hr) ?_⟩
      intro v a b hab
      rw [List.append_assoc] at hab ⊢
      exact hf _ a b hab

/-- What coupled programs come to, they come to after what was told before. -/
lemma Coupled.extending (h : Coupled K R u p q) :
    Coupled K (fun v a b => R v a b ∧ u <+: v) u p q := by
  rw [← bind_done p, ← bind_done q]
  exact h.bind fun v a b hab => ⟨hab, List.prefix_append u v⟩

/-- Coupled steps after which others follow; a failure is the same both times, and ends both. -/
lemma Coupled.steps_bind {ε : Type} {S : Trace I → γ → δ → Prop} {x : ExceptT ε (Program I) α}
    {y : ExceptT ε (Program I) β} {f : α → ExceptT ε (Program I) γ}
    {g : β → ExceptT ε (Program I) δ} (h : Coupled K (fun v => Agree (R v)) u x.run y.run)
    (hf : ∀ v a b, R (u ++ v) a b →
      Coupled K (fun w => Agree (S w)) (u ++ v) (f a).run (g b).run) :
    Coupled K (fun w => Agree (S w)) u (x >>= f).run (y >>= g).run := by
  rw [ExceptT.run_bind, ExceptT.run_bind, bind_eq, bind_eq]
  refine h.bind fun v outcome outcome' hab => ?_
  cases hab with
  | error failure => exact .error failure
  | ok hab => exact hf v _ _ hab

/-- A program that asks only what is answered the same both times is coupled with itself. -/
lemma OnlyAsks.coupled {A : I.Call → Prop} {p : Program I α} (h : p.OnlyAsks A)
    (hcalls : ∀ u c, K.calls u c c)
    (hanswers : ∀ c r r', A c → K.exchanges ⟨c, r⟩ ⟨c, r'⟩ → r = r') :
    Coupled K (fun _ => Eq) u p p := by
  induction p generalizing u with
  | done a => rfl
  | cut => trivial
  | ask c next ih =>
    refine ⟨hcalls u c, fun r r' hr => ?_⟩
    rw [hanswers c r r' h.1 hr]
    exact ih r' (h.2 r')

/-- A program whose calls are made by coupled programs, from related states, is coupled with
itself. -/
lemma OnlyAsks.coupled_interpret {L : Comparison J} {A : I.Call → Prop} {σ τ : Type}
    {T : Trace J → σ → τ → Prop} {serve : (c : I.Call) → σ → Program J (I.Answer c × σ)}
    {serve' : (c : I.Call) → τ → Program J (I.Answer c × τ)} {p : Program I α} {u : Trace J}
    {x : σ} {y : τ} (h : p.OnlyAsks A)
    (hserve : ∀ u c x y, A c → T u x y →
      Coupled L (fun v r r' => r.1 = r'.1 ∧ T v r.2 r'.2) u (serve c x) (serve' c y))
    (hT : T u x y) :
    Coupled L (fun v r r' => r.1 = r'.1 ∧ T v r.2 r'.2) u (p.interpret serve x)
      (p.interpret serve' y) := by
  induction p generalizing u x y with
  | done a => exact ⟨rfl, hT⟩
  | cut => trivial
  | ask c next ih =>
    refine (hserve u c x y h.1 hT).bind ?_
    rintro v ⟨r, x'⟩ ⟨r', y'⟩ ⟨hr, hT'⟩
    cases hr
    exact ih r (h.2 r) hT'

/-- Coupled programs that get such answers every time ask equally often, and are told the same. -/
lemma Coupled.forall₂_answered {reply reply' : (c : I.Call) → I.Answer c} (h : Coupled K R u p q)
    (hreply : ∀ v c d, K.calls v c d → K.exchanges ⟨c, reply c⟩ ⟨d, reply' d⟩) :
    List.Forall₂ K.exchanges (p.answered reply) (q.answered reply') := by
  induction p generalizing u q with
  | done a =>
    cases q with
    | done b => exact .nil
    | ask d next' => exact h.elim
    | cut => exact h.elim
  | cut =>
    cases q with
    | cut => exact .nil
    | done b => exact h.elim
    | ask d next' => exact h.elim
  | ask c next ih =>
    cases q with
    | done b => exact h.elim
    | cut => exact h.elim
    | ask d next' =>
      have hexchange := hreply u c d h.1
      exact .cons hexchange (ih (reply c) (h.2 _ _ hexchange))

/-! ### Where two runs stand -/

/-- Two runs stand alike: they ask the same next, or have ended in related results, or were cut. -/
inductive StandAlike (K : Comparison I) (R : Trace I → α → β → Prop) (u : Trace I) :
    Program I α → Program I β → Prop where
  | ask {c d : I.Call} (next : I.Answer c → Program I α) (next' : I.Answer d → Program I β)
      (h : K.calls u c d) : StandAlike K R u (.ask c next) (.ask d next')
  | done {a : α} {b : β} (h : R u a b) : StandAlike K R u (.done a) (.done b)
  | cut : StandAlike K R u .cut .cut

lemma Coupled.standAlike (h : Coupled K R u p q) : StandAlike K R u p q := by
  cases p with
  | done a =>
    cases q with
    | done b => exact .done h
    | ask d next' => exact h.elim
    | cut => exact h.elim
  | cut =>
    cases q with
    | cut => exact .cut
    | done b => exact h.elim
    | ask d next' => exact h.elim
  | ask c next =>
    cases q with
    | ask d next' => exact .ask next next' h.1
    | done b => exact h.elim
    | cut => exact h.elim

/-- Coupled programs that are told the same have asked the same at every point of their runs, and
stand alike. -/
theorem Coupled.along {p' : Program I α} {q' : Program I β} {t t' : Trace I}
    (h : Coupled K R u p q) (hp : p.After t p') (hq : q.After t' q')
    (ht : List.Forall₂ (fun e e' => (∃ v, K.calls v e.call e'.call) → K.exchanges e e') t t') :
    (∀ i e e', t[i]? = some e → t'[i]? = some e' →
      K.calls (u ++ t.take i) e.call e'.call ∧ K.exchanges e e') ∧
    Coupled K R (u ++ t) p' q' := by
  induction ht generalizing u p q with
  | nil =>
    cases hp
    cases hq
    rw [List.append_nil]
    exact ⟨nofun, h⟩
  | @cons e e' t t' he ht ih =>
    cases hp with
    | @answered c next r _ _ hp =>
      cases hq with
      | @answered d next' r' _ _ hq =>
        have hexchange : K.exchanges ⟨c, r⟩ ⟨d, r'⟩ := he ⟨u, h.1⟩
        obtain ⟨hasked, hstand⟩ := ih (h.2 r r' hexchange) hp hq
        rw [List.append_assoc] at hstand
        refine ⟨?_, hstand⟩
        rintro (_ | i) e e' hi hi'
        · cases hi
          cases hi'
          rw [List.take_zero, List.append_nil]
          exact ⟨h.1, hexchange⟩
        · have hlater := hasked i e e' hi hi'
          rw [List.append_assoc] at hlater
          exact hlater

end Program

end BucketOperator
