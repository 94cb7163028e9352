import BucketOperator.Proofs.Program.Guarantee

/-!
# Programs over two interfaces

A program some of whose calls have been replaced by programs over another interface asks calls of
both interfaces.
-/

namespace BucketOperator

/-- The calls of two interfaces. -/
abbrev Interface.sum (I J : Interface) : Interface where
  Call := I.Call ⊕ J.Call
  Answer
    | .inl c => I.Answer c
    | .inr c => J.Answer c

/-- An exchange over the first of two interfaces. -/
def Exchange.left {I : Interface} (J : Interface) (e : Exchange I) : Exchange (I.sum J) :=
  ⟨.inl e.call, e.answer⟩

/-- A world that answers the first of two interfaces as another world does. -/
lemma Along.left {I J : Interface} {σ : Type} {B : Behaviour I σ} {C : Behaviour (I.sum J) σ}
    (hC : ∀ s c r s', B s c r s' → C s (.inl c) r s') {s s' : σ} {t : Trace I}
    (h : Along B s t s') : Along C s (t.map (Exchange.left J)) s' := by
  induction h with
  | nil s => exact .nil s
  | cons h _ ih => exact .cons (hC _ _ _ _ h) ih

namespace Program

variable {I J : Interface} {σ α : Type}

/-- A program over the second of two interfaces. -/
def right (p : Program J α) : Program (I.sum J) α :=
  p.substitute (J := I.sum J) fun c => .ask (.inr c) .done

@[simp] lemma right_done (a : α) : (Program.done a).right (I := I) (J := J) = .done a := rfl

@[simp] lemma right_cut : (Program.cut : Program J α).right (I := I) = .cut := rfl

@[simp] lemma right_ask (c : J.Call) (next : J.Answer c → Program J α) :
    (Program.ask c next).right (I := I) = .ask (.inr c) fun r => (next r).right := rfl

/-- A program over the second interface guarantees what holds wherever its run stands. -/
lemma ensures_right {B : Behaviour (I.sum J) σ} {asks : σ → (I.sum J).Call → Prop}
    {ends : σ → Option α → Prop} {R : Program J α → σ → Prop} {p : Program J α} {s : σ}
    (hs : R p s) (hasks : ∀ c next s, R (.ask c next) s → asks s (.inr c))
    (hnext : ∀ c next s r s', R (.ask c next) s → B s (.inr c) r s' → R (next r) s')
    (hdone : ∀ a s, R (.done a) s → ends s (some a)) (hcut : ∀ s, R .cut s → ends s none) :
    (p.right (I := I)).Ensures B asks ends s := by
  induction p generalizing s with
  | done a => exact hdone a s hs
  | cut => exact hcut s hs
  | ask c next ih =>
    refine ⟨hasks c next s hs, ?_⟩
    intro r s' hr
    exact ih r (hnext c next s r s' hs hr)

/-- A guarantee is one over both interfaces. -/
lemma Ensures.right {B : Behaviour (I.sum J) σ} {asks : σ → (I.sum J).Call → Prop}
    {ends : σ → Option α → Prop} {p : Program J α} {s : σ}
    (h : p.Ensures (fun s c r s' => B s (.inr c) r s') (fun s c => asks s (.inr c)) ends s) :
    (p.right (I := I)).Ensures B asks ends s := by
  induction p generalizing s with
  | done a => exact h
  | cut => exact h
  | ask c next ih => exact ⟨h.1, fun r s' hr => ih r (h.2 r s' hr)⟩

/-! ### Runs that may stop -/

/-- A program may have brought a world from one state to another when it returns, or when it stops
before that, which nobody can tell from a failure. -/
def Reaches {ε : Type} (B : Behaviour I σ) (p : Program I (Except ε α)) (s : σ)
    (outcome : Except ε α) (s' : σ) : Prop :=
  ∃ t q, p.After t q ∧ Along B s t s' ∧
    (q = .done outcome ∨ ∃ failure, outcome = .error failure)

section Reaching

variable {ε : Type} {B : Behaviour I σ} {P : σ → Prop} {p : Program I (Except ε α)} {s s' : σ}

/-- What holds wherever a program may stop holds where it does. -/
lemma Ensures.reaches {outcome : Except ε α}
    (h : p.Ensures B (fun s _ => P s) (fun s _ => P s) s) (hp : Reaches B p s outcome s') :
    P s' := by
  obtain ⟨t, q, hq, ht, -⟩ := hp
  exact (h.along hq ht).holds

/-- What a program guarantees of its successes holds of a success. -/
lemma Ensures.returns {asks : σ → I.Call → Prop} {Q : σ → α → Prop} {a : α}
    (h : p.Ensures B asks (fun s o => P s ∧ ∀ a, o = some (.ok a) → Q s a) s)
    (hp : Reaches B p s (.ok a) s') : P s' ∧ Q s' a := by
  obtain ⟨t, q, hq, ht, rfl | ⟨_, ⟨⟩⟩⟩ := hp
  obtain ⟨hP, hQ⟩ := h.along hq ht
  exact ⟨hP, hQ a rfl⟩

end Reaching

end Program

end BucketOperator
