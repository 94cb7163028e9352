import BucketOperator.Proofs.Program.Trace

/-!
# Guarantees of programs

A world may answer a call in several ways and change its state with the answer. A program gives a
guarantee when every call it may come to ask is allowed in the state it is asked in, and the state
it ends in, or is cut in, is as wanted. A guarantee is computed along the program, and holds
wherever a run may stand.
-/

namespace BucketOperator

/-- What a world may answer to a call in a state, with the state afterwards. -/
abbrev Behaviour (I : Interface) (σ : Type) := σ → (c : I.Call) → I.Answer c → σ → Prop

/-- A world goes from one state to another while it gives the answers of a trace. -/
inductive Along {I : Interface} {σ : Type} (B : Behaviour I σ) : σ → Trace I → σ → Prop where
  | nil (s : σ) : Along B s [] s
  | cons {s s' s'' : σ} {c : I.Call} {r : I.Answer c} {t : Trace I}
      (h : B s c r s') (rest : Along B s' t s'') : Along B s (⟨c, r⟩ :: t) s''

lemma Along.append {I : Interface} {σ : Type} {B : Behaviour I σ} {s s' s'' : σ} {t u : Trace I}
    (h : Along B s t s') (h' : Along B s' u s'') : Along B s (t ++ u) s'' := by
  induction h with
  | nil s => exact h'
  | cons h _ ih => exact .cons h (ih h')

lemma along_append_iff {I : Interface} {σ : Type} {B : Behaviour I σ} {s s' : σ} {t u : Trace I} :
    Along B s (t ++ u) s' ↔ ∃ m, Along B s t m ∧ Along B m u s' := by
  constructor
  · intro h
    induction t generalizing s with
    | nil => exact ⟨s, .nil s, h⟩
    | cons e t ih =>
      cases h with
      | cons h rest =>
        obtain ⟨m, hm, hrest⟩ := ih rest
        exact ⟨m, .cons h hm, hrest⟩
  · rintro ⟨m, hm, hrest⟩
    exact hm.append hrest

lemma Along.mono {I : Interface} {σ : Type} {B C : Behaviour I σ} {s s' : σ} {t : Trace I}
    (h : Along B s t s') (hC : ∀ s c r s', B s c r s' → C s c r s') : Along C s t s' := by
  induction h with
  | nil s => exact .nil s
  | cons h _ ih => exact .cons (hC _ _ _ _ h) ih

/-- A world whose next state is determined goes from one state to the next. -/
lemma along_iff_foldl {I : Interface} {σ : Type} {next : σ → Exchange I → σ} {s s' : σ}
    {t : Trace I} :
    Along (fun s c r s' => s' = next s ⟨c, r⟩) s t s' ↔ s' = t.foldl next s := by
  induction t generalizing s with
  | nil =>
    constructor
    · intro h
      cases h
      rfl
    · rintro rfl
      exact .nil _
  | cons e t ih =>
    constructor
    · intro h
      cases h with
      | cons hnext hrest =>
        subst hnext
        exact ih.1 hrest
    · intro h
      exact .cons rfl (ih.2 h)

namespace Program

variable {I J : Interface} {σ α β ε : Type}

/-- A run against a world that answers from a state is a run of that world. -/
lemma exists_yields_of_run {serve : (c : I.Call) → σ → I.Answer c × σ} {p : Program I α} {s : σ}
    {a : α} (h : (p.run serve s).1 = some a) :
    ∃ t, p.Yields t a ∧ Along (fun s c r s' => (r, s') = serve c s) s t (p.run serve s).2 := by
  induction p generalizing s with
  | done b =>
    cases h
    exact ⟨[], .here _, .nil _⟩
  | cut => cases h
  | ask c next ih =>
    obtain ⟨t, ht, halong⟩ := ih _ h
    exact ⟨⟨c, (serve c s).1⟩ :: t, .answered ht, .cons rfl halong⟩

/-- Every call is asked in a state that allows it, and the run ends as wanted. A run that is cut
has no result. -/
def Ensures (B : Behaviour I σ) (asks : σ → I.Call → Prop) (ends : σ → Option α → Prop) :
    Program I α → σ → Prop
  | .done a, s => ends s (some a)
  | .ask c next, s => asks s c ∧ ∀ r s', B s c r s' → (next r).Ensures B asks ends s'
  | .cut, s => ends s none

variable {B : Behaviour I σ} {asks : σ → I.Call → Prop} {ends : σ → Option α → Prop} {s s' : σ}

@[simp] lemma ensures_done {a : α} :
    (Program.done a : Program I α).Ensures B asks ends s ↔ ends s (some a) := Iff.rfl

@[simp] lemma ensures_cut :
    (Program.cut : Program I α).Ensures B asks ends s ↔ ends s none := Iff.rfl

@[simp] lemma ensures_ask {c : I.Call} {next : I.Answer c → Program I α} :
    (Program.ask c next).Ensures B asks ends s ↔
      asks s c ∧ ∀ r s', B s c r s' → (next r).Ensures B asks ends s' := Iff.rfl

/-- A guarantee may be weakened. -/
lemma Ensures.mono {asks' : σ → I.Call → Prop} {ends' : σ → Option α → Prop} {p : Program I α}
    (h : p.Ensures B asks ends s) (hasks : ∀ s c, asks s c → asks' s c)
    (hends : ∀ s o, ends s o → ends' s o) : p.Ensures B asks' ends' s := by
  induction p generalizing s with
  | done a => exact hends _ _ h
  | cut => exact hends _ _ h
  | ask c next ih =>
    obtain ⟨hc, hnext⟩ := h
    refine ⟨hasks _ _ hc, ?_⟩
    intro r s' hr
    exact ih r (hnext r s' hr)

/-- What always holds is guaranteed by every program. -/
lemma ensures_of_forall {p : Program I α} (hasks : ∀ s c, asks s c) (hends : ∀ s o, ends s o) :
    p.Ensures B asks ends s := by
  induction p generalizing s with
  | done a => exact hends _ _
  | cut => exact hends _ _
  | ask c next ih => exact ⟨hasks _ _, fun r s' _ => ih r⟩

/-- Over a world without a state, a guarantee is about every call that may be asked. -/
lemma Ensures.mayAsk {asks : I.Call → Prop} {ends : Unit → Option α → Prop} {p : Program I α}
    {c : I.Call} (h : p.Ensures (fun _ _ _ _ => True) (fun _ c => asks c) ends ())
    (hc : p.MayAsk c) : asks c := by
  induction p with
  | done a => exact absurd hc not_mayAsk_done
  | cut => exact absurd hc not_mayAsk_cut
  | ask d next ih =>
    obtain ⟨hd, hnext⟩ := h
    rcases mayAsk_ask_iff.1 hc with rfl | ⟨r, hr⟩
    · exact hd
    · exact ih r (hnext r () trivial) hr

/-! ### Sequences -/

/-- What the first of two programs is to end in. -/
def EndsBefore (B : Behaviour I σ) (asks : σ → I.Call → Prop) (ends : σ → Option β → Prop)
    (f : α → Program I β) (s : σ) : Option α → Prop
  | some a => (f a).Ensures B asks ends s
  | none => ends s none

lemma ensures_bind {ends : σ → Option β → Prop} {p : Program I α} {f : α → Program I β} :
    (p.bind f).Ensures B asks ends s ↔ p.Ensures B asks (EndsBefore B asks ends f) s := by
  induction p generalizing s with
  | done a => rfl
  | cut => rfl
  | ask c next ih => simp only [ask_bind, ensures_ask, ih]

/-- What the first of two steps is to end in: the second step does not follow a failure. -/
def StepsBefore (B : Behaviour I σ) (asks : σ → I.Call → Prop)
    (ends : σ → Option (Except ε β) → Prop) (f : α → ExceptT ε (Program I) β) (s : σ) :
    Option (Except ε α) → Prop
  | some (.ok a) => (f a).run.Ensures B asks ends s
  | some (.error failure) => ends s (some (.error failure))
  | none => ends s none

lemma ensures_steps_bind {ends : σ → Option (Except ε β) → Prop}
    {x : ExceptT ε (Program I) α} {f : α → ExceptT ε (Program I) β} :
    (x >>= f).run.Ensures B asks ends s ↔ x.run.Ensures B asks (StepsBefore B asks ends f) s := by
  rw [ExceptT.run_bind, bind_eq, ensures_bind]
  apply iff_of_eq
  congr 1
  funext s o
  rcases o with _ | failure | a <;> rfl

/-! ### Calls that are programs -/

/-- What is to hold of a result, and of a state in which there is none. -/
def Returns (R : σ → α → Prop) (C : σ → Prop) (s : σ) : Option α → Prop
  | some a => R s a
  | none => C s

/-- A program whose calls are made by programs gives a guarantee when it gives one over what these
programs may do. -/
lemma Ensures.substitute {serve : (c : I.Call) → Program J (I.Answer c)} {C : Behaviour J σ}
    {asks' : σ → J.Call → Prop} {p : Program I α}
    (h : p.Ensures B asks ends s)
    (hserve : ∀ s c, asks s c → (serve c).Ensures C asks'
      (Returns (fun s' r => B s c r s') fun s' => ends s' none) s) :
    (p.substitute serve).Ensures C asks' ends s := by
  induction p generalizing s with
  | done a => exact h
  | cut => exact h
  | ask c next ih =>
    obtain ⟨hc, hnext⟩ := h
    rw [Program.substitute, ensures_bind]
    refine (hserve s c hc).mono (fun _ _ h => h) ?_
    rintro s' (_ | r) hr
    · exact hr
    · exact ih r (hnext r s' hr)

/-- The same for programs that thread a state of their own, as long as it is a good one. -/
lemma Ensures.interpret {τ : Type} {serve : (c : I.Call) → τ → Program J (I.Answer c × τ)}
    {C : Behaviour J σ} {asks' : σ → J.Call → Prop} {D : σ → Prop} {T : τ → Prop}
    {p : Program I α} {x : τ} (h : p.Ensures B asks ends s)
    (hserve : ∀ s c x, T x → asks s c → (serve c x).Ensures C asks'
      (Returns (fun s' r => B s c r.1 s' ∧ T r.2) D) s)
    (hcut : ∀ s, ends s none → D s) (hx : T x) :
    (p.interpret serve x).Ensures C asks'
      (Returns (fun s' r => ends s' (some r.1) ∧ T r.2) D) s := by
  induction p generalizing s x with
  | done a => exact ⟨h, hx⟩
  | cut => exact hcut s h
  | ask c next ih =>
    obtain ⟨hc, hnext⟩ := h
    rw [Program.interpret, ensures_bind]
    refine (hserve s c x hx hc).mono (fun _ _ h => h) ?_
    rintro s' (_ | ⟨r, x'⟩) hr
    · exact hr
    · exact ih r (hnext r s' hr.1) hr.2

/-! ### Where a run may stand -/

/-- A guarantee holds wherever a run stands. -/
theorem Ensures.along {p q : Program I α} {t : Trace I} (h : p.Ensures B asks ends s)
    (hp : p.After t q) (ht : Along B s t s') : q.Ensures B asks ends s' := by
  induction hp generalizing s with
  | here p =>
    cases ht
    exact h
  | answered hq ih =>
    cases ht with
    | cons hr rest => exact ih (h.2 _ _ hr) rest

/-- A guarantee is about every call of a run. -/
lemma Ensures.asked_of_mem {p q : Program I α} {t : Trace I} (h : p.Ensures B asks ends s)
    (hp : p.After t q) (ht : Along B s t s') {e : Exchange I} (he : e ∈ t) :
    ∃ s₀, asks s₀ e.call := by
  induction hp generalizing s with
  | here p => cases he
  | answered hq ih =>
    cases ht with
    | cons hr rest =>
      rcases List.mem_cons.1 he with rfl | he
      · exact ⟨s, h.1⟩
      · exact ih (h.2 _ _ hr) rest he

/-- What holds wherever a program asks and ends holds wherever its run stands. -/
lemma Ensures.holds {P : σ → Prop} {p : Program I α}
    (h : p.Ensures B (fun s _ => P s) (fun s _ => P s) s) : P s := by
  cases p with
  | done a => exact h
  | cut => exact h
  | ask c next => exact h.1

/-- What holds wherever a program asks and ends holds after every answer. -/
lemma Ensures.ahead {P : σ → Prop} {p : Program I α}
    (h : p.Ensures B (fun s _ => P s) (fun s _ => P s) s) :
    p.Ensures B (fun s c => P s ∧ ∀ r s', B s c r s' → P s') (fun s _ => P s) s := by
  induction p generalizing s with
  | done a => exact h
  | cut => exact h
  | ask c next ih =>
    obtain ⟨hs, hnext⟩ := h
    refine ⟨⟨hs, fun r s' hr => (hnext r s' hr).holds⟩, ?_⟩
    intro r s' hr
    exact ih r (hnext r s' hr)

/-! ### The record of a run -/

/-- A world that answers as it likes, and is the record of its answers. -/
def recorded (I : Interface) : Behaviour I (Trace I) := fun t c r t' => t' = t ++ [⟨c, r⟩]

lemma along_recorded (t u : Trace I) : Along (recorded I) t u (t ++ u) := by
  induction u generalizing t with
  | nil =>
    rw [List.append_nil]
    exact .nil t
  | cons e u ih =>
    rw [← List.singleton_append, ← List.append_assoc]
    exact .cons rfl (ih _)

/-- Over the record, a guarantee is about every call of a run and what came before it. -/
theorem Ensures.asked {asks : Trace I → I.Call → Prop} {ends : Trace I → Option α → Prop}
    {p q : Program I α} {before after : Trace I} {c : I.Call} {r : I.Answer c}
    (h : p.Ensures (recorded I) asks ends [])
    (hq : p.After (before ++ ⟨c, r⟩ :: after) q) : asks before c := by
  obtain ⟨m, hm, hq⟩ := after_append_iff.1 hq
  have hm' := h.along hm (along_recorded [] before)
  cases hq with
  | answered _ => exact hm'.1

/-- Over the record, a guarantee is about the whole of a run that has ended. -/
theorem Ensures.ended {asks : Trace I → I.Call → Prop} {ends : Trace I → Option α → Prop}
    {p q : Program I α} {t : Trace I} (h : p.Ensures (recorded I) asks ends [])
    (hq : p.After t q) : q.Ensures (recorded I) asks ends t :=
  h.along hq (along_recorded [] t)

end Program

/-- A world together with the record of its answers. -/
def Behaviour.recording {I : Interface} {σ : Type} (B : Behaviour I σ) :
    Behaviour I (σ × Trace I) := fun x c r x' => B x.1 c r x'.1 ∧ x'.2 = x.2 ++ [⟨c, r⟩]

lemma Along.recording {I : Interface} {σ : Type} {B : Behaviour I σ} {s s' : σ} {t : Trace I}
    (h : Along B s t s') (u : Trace I) : Along B.recording (s, u) t (s', u ++ t) := by
  induction h generalizing u with
  | nil s =>
    rw [List.append_nil]
    exact .nil _
  | @cons s s' s'' c r t h rest ih =>
    rw [← List.singleton_append, ← List.append_assoc]
    exact .cons ⟨h, rfl⟩ (ih _)

end BucketOperator
