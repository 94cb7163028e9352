import BucketOperator.Proofs.Program.Guarantee

/-!
# What programs ask

Some things hold of every call that a program may come to ask, whatever it is answered. Others hold
only where the answers are as told, and then it is enough to know the answers to the calls that are
asked after such answers.
-/

namespace BucketOperator

namespace Program

variable {I J : Interface} {σ τ α β ε : Type} {A A' : I.Call → Prop} {p : Program I α}

/-- Whatever it is answered, a program asks only calls of some kind. -/
def OnlyAsks (A : I.Call → Prop) : Program I α → Prop
  | .done _ => True
  | .ask c next => A c ∧ ∀ r, (next r).OnlyAsks A
  | .cut => True

lemma OnlyAsks.mono (h : p.OnlyAsks A) (hA : ∀ c, A c → A' c) : p.OnlyAsks A' := by
  induction p with
  | done a => trivial
  | cut => trivial
  | ask c next ih => exact ⟨hA c h.1, fun r => ih r (h.2 r)⟩

lemma onlyAsks_of_forall (h : ∀ c, A c) : p.OnlyAsks A := by
  induction p with
  | done a => trivial
  | cut => trivial
  | ask c next ih => exact ⟨h c, ih⟩

lemma OnlyAsks.bind {f : α → Program I β} (h : p.OnlyAsks A) (hf : ∀ a, (f a).OnlyAsks A) :
    (p.bind f).OnlyAsks A := by
  induction p with
  | done a => exact hf a
  | cut => trivial
  | ask c next ih => exact ⟨h.1, fun r => ih r (h.2 r)⟩

/-- Steps after which others follow ask what these and those ask. -/
lemma OnlyAsks.steps_bind {x : ExceptT ε (Program I) α} {f : α → ExceptT ε (Program I) β}
    (h : x.run.OnlyAsks A) (hf : ∀ a, (f a).run.OnlyAsks A) : (x >>= f).run.OnlyAsks A := by
  rw [ExceptT.run_bind, bind_eq]
  refine h.bind ?_
  rintro (failure | a)
  · trivial
  · exact hf a

/-- Such a program guarantees what holds wherever it may end. -/
lemma OnlyAsks.ensures {B : Behaviour I σ} {asks : σ → I.Call → Prop} {ends : σ → Option α → Prop}
    {s : σ} (h : p.OnlyAsks A) (hasks : ∀ s c, A c → asks s c) (hends : ∀ s o, ends s o) :
    p.Ensures B asks ends s := by
  induction p generalizing s with
  | done a => exact hends s _
  | cut => exact hends s _
  | ask c next ih => exact ⟨hasks s c h.1, fun r s' _ => ih r (h.2 r)⟩

/-- What a program guarantees of its calls in any world, it guarantees whatever it is answered. -/
lemma Ensures.onlyAsks {ends : Unit → Option α → Prop}
    (h : p.Ensures (fun _ _ _ _ => True) (fun _ c => A c) ends ()) : p.OnlyAsks A := by
  induction p with
  | done a => trivial
  | cut => trivial
  | ask c next ih => exact ⟨h.1, fun r => ih r (h.2 r () trivial)⟩

/-- What was answered has been asked. -/
lemma OnlyAsks.asked {t : Trace I} {q : Program I α} (h : p.OnlyAsks A) (hq : p.After t q) :
    ∀ e ∈ t, A e.call := by
  induction hq with
  | here p => exact List.forall_mem_nil _
  | answered _ ih => exact List.forall_mem_cons.2 ⟨h.1, ih (h.2 _)⟩

/-- A program whose calls are made by programs asks what these ask. -/
lemma OnlyAsks.interpret {serve : (c : I.Call) → τ → Program J (I.Answer c × τ)}
    {A' : J.Call → Prop} (h : p.OnlyAsks A) (hserve : ∀ c x, A c → (serve c x).OnlyAsks A')
    (x : τ) : (p.interpret serve x).OnlyAsks A' := by
  induction p generalizing x with
  | done a => trivial
  | cut => trivial
  | ask c next ih => exact (hserve c x h.1).bind fun r => ih r.1 (h.2 r.1) r.2

/-- The same of a guarantee that the programs give, as long as the state they thread is good. -/
lemma OnlyAsks.ensures_interpret {serve : (c : I.Call) → τ → Program J (I.Answer c × τ)}
    {C : Behaviour J σ} {asks : σ → J.Call → Prop} {T : τ → Prop} {s : σ} {x : τ}
    (h : p.OnlyAsks A)
    (hserve : ∀ s c x, T x → A c →
      (serve c x).Ensures C asks (Returns (fun _ r => T r.2) fun _ => True) s) (hx : T x) :
    (p.interpret serve x).Ensures C asks (Returns (fun _ r => T r.2) fun _ => True) s := by
  induction p generalizing s x with
  | done a => exact hx
  | cut => trivial
  | ask c next ih =>
    rw [Program.interpret, ensures_bind]
    refine (hserve s c x hx h.1).mono (fun _ _ h => h) ?_
    rintro s' (_ | ⟨r, x'⟩) hr
    · trivial
    · exact ih r (h.2 r) hr

/-- The calls of a sequence of two programs are made one program after the other. -/
lemma interpret_bind {serve : (c : I.Call) → τ → Program J (I.Answer c × τ)}
    {f : α → Program I β} (x : τ) :
    (p.bind f).interpret serve x =
      (p.interpret serve x).bind fun r => (f r.1).interpret serve r.2 := by
  induction p generalizing x with
  | done a => rfl
  | cut => rfl
  | ask c next ih =>
    simp only [ask_bind, Program.interpret, bind_assoc]
    congr 1
    funext r
    exact ih r.1 r.2

/-! ### Answers as told -/

/-- A world without a state gives the answers of a trace if it gives each of them. -/
lemma along_of_forall {R : Exchange I → Prop} {t : Trace I} (h : ∀ e ∈ t, R e) :
    Along (fun _ c r _ => R ⟨c, r⟩) () t () := by
  induction t with
  | nil => exact .nil ()
  | cons e t ih =>
    have he : R ⟨e.call, e.answer⟩ := h e List.mem_cons_self
    exact .cons he (ih fun e' he' => h e' (List.mem_cons_of_mem e he'))

/-- A program asks a call once everything before was answered as told. -/
def AsksAfter (R : Exchange I → Prop) (p : Program I α) (c : I.Call) : Prop :=
  ∃ t next, p.After t (.ask c next) ∧ ∀ e ∈ t, R e

/-- A guarantee given answers as told needs them only for what is asked after such answers. -/
lemma Ensures.of_asksAfter {R : Exchange I → Prop} {B : Behaviour I Unit}
    {asks : Unit → I.Call → Prop} {ends : Unit → Option α → Prop}
    (h : p.Ensures (fun _ c r _ => R ⟨c, r⟩) asks ends ())
    (hB : ∀ c r, B () c r () → AsksAfter R p c → R ⟨c, r⟩) : p.Ensures B asks ends () := by
  induction p with
  | done a => exact h
  | cut => exact h
  | ask c next ih =>
    refine ⟨h.1, ?_⟩
    rintro r ⟨⟩ hr
    have htold : R ⟨c, r⟩ := hB c r hr ⟨[], next, .here _, nofun⟩
    refine ih r (h.2 r () htold) ?_
    rintro c' r' hr' ⟨t, next', ht, hall⟩
    refine hB c' r' hr' ⟨⟨c, r⟩ :: t, next', .answered ht, ?_⟩
    intro e he
    rcases List.mem_cons.1 he with rfl | he
    · exact htold
    · exact hall e he

/-! ### Fixed answers -/

/-- The trace of a run that gets the same answer to a call every time. -/
def answered (reply : (c : I.Call) → I.Answer c) : Program I α → Trace I
  | .done _ => []
  | .ask c next => ⟨c, reply c⟩ :: (next (reply c)).answered reply
  | .cut => []

lemma exists_after_answered (reply : (c : I.Call) → I.Answer c) :
    ∃ q, p.After (p.answered reply) q := by
  induction p with
  | done a => exact ⟨.done a, .here _⟩
  | cut => exact ⟨.cut, .here _⟩
  | ask c next ih => exact (ih (reply c)).imp fun _ => .answered

lemma exists_of_mem_answered {reply : (c : I.Call) → I.Answer c} {e : Exchange I}
    (h : e ∈ p.answered reply) : ∃ c, e = ⟨c, reply c⟩ := by
  induction p with
  | done a => cases h
  | cut => cases h
  | ask c next ih =>
    rcases List.mem_cons.1 h with rfl | h
    · exact ⟨c, rfl⟩
    · exact ih (reply c) h

end Program

end BucketOperator
