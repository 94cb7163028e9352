import BucketOperator.Program
import Mathlib.Tactic.Common

/-!
# Traces of programs

A program meets the outside only in the answers to its calls. A trace lists calls with their
answers, and what is left of a program after a trace says where a run stands, whatever was
answered. A run that was abandoned stands at a program that still asks.
-/

namespace BucketOperator

/-- A call together with the answer it got. -/
structure Exchange (I : Interface) where
  call : I.Call
  answer : I.Answer call

/-- Calls with their answers, the first one first. -/
abbrev Trace (I : Interface) := List (Exchange I)

namespace Program

variable {I : Interface} {α β : Type}

/-- Answered as in a trace, a program goes on as another one. -/
inductive After : Program I α → Trace I → Program I α → Prop where
  | here (p : Program I α) : After p [] p
  | answered {c : I.Call} {next : I.Answer c → Program I α} {r : I.Answer c} {t : Trace I}
      {q : Program I α} (h : After (next r) t q) : After (.ask c next) (⟨c, r⟩ :: t) q

/-- Answered as in a trace, a program returns a result. -/
def Yields (p : Program I α) (t : Trace I) (a : α) : Prop := p.After t (.done a)

/-! ### Where a run stands -/

@[simp] lemma after_done_iff {a : α} {t : Trace I} {q : Program I α} :
    (Program.done a).After t q ↔ t = [] ∧ q = .done a := by
  constructor
  · intro h
    cases h with
    | here => exact ⟨rfl, rfl⟩
  · rintro ⟨rfl, rfl⟩
    exact .here _

@[simp] lemma after_cut_iff {t : Trace I} {q : Program I α} :
    (Program.cut : Program I α).After t q ↔ t = [] ∧ q = .cut := by
  constructor
  · intro h
    cases h with
    | here => exact ⟨rfl, rfl⟩
  · rintro ⟨rfl, rfl⟩
    exact .here _

lemma after_ask_iff {c : I.Call} {next : I.Answer c → Program I α} {t : Trace I}
    {q : Program I α} :
    (Program.ask c next).After t q ↔
      (t = [] ∧ q = .ask c next) ∨ ∃ r t', t = ⟨c, r⟩ :: t' ∧ (next r).After t' q := by
  constructor
  · intro h
    cases h with
    | here => exact .inl ⟨rfl, rfl⟩
    | answered h => exact .inr ⟨_, _, rfl, h⟩
  · rintro (⟨rfl, rfl⟩ | ⟨r, t', rfl, h⟩)
    · exact .here _
    · exact .answered h

/-- A run that stands somewhere after two traces stood somewhere between them. -/
lemma after_append_iff {p q : Program I α} {t u : Trace I} :
    p.After (t ++ u) q ↔ ∃ m, p.After t m ∧ m.After u q := by
  induction t generalizing p with
  | nil =>
    constructor
    · intro h
      exact ⟨p, .here p, h⟩
    · rintro ⟨m, hm, h⟩
      cases hm
      exact h
  | cons e t ih =>
    constructor
    · intro h
      cases h with
      | answered h =>
        obtain ⟨m, hm, hq⟩ := ih.1 h
        exact ⟨m, .answered hm, hq⟩
    · rintro ⟨m, hm, h⟩
      cases hm with
      | answered hm => exact .answered (ih.2 ⟨m, hm, h⟩)

/-! ### Results -/

@[simp] lemma yields_done_iff {a b : α} {t : Trace I} :
    (Program.done a).Yields t b ↔ t = [] ∧ b = a := by
  simp [Yields]

@[simp] lemma not_yields_cut {b : α} {t : Trace I} : ¬ (Program.cut : Program I α).Yields t b := by
  simp [Yields]

@[simp] lemma yields_ask_iff {c : I.Call} {next : I.Answer c → Program I α} {t : Trace I}
    {b : α} :
    (Program.ask c next).Yields t b ↔ ∃ r t', t = ⟨c, r⟩ :: t' ∧ (next r).Yields t' b := by
  simp [Yields, after_ask_iff]

/-- A program that goes on with the result of another one has first run that one. -/
lemma yields_bind_iff {p : Program I α} {f : α → Program I β} {t : Trace I} {b : β} :
    (p.bind f).Yields t b ↔
      ∃ t₁ t₂ a, t = t₁ ++ t₂ ∧ p.Yields t₁ a ∧ (f a).Yields t₂ b := by
  induction p generalizing t with
  | done a => simp
  | cut => simp
  | ask c next ih =>
    simp only [ask_bind, yields_ask_iff, ih]
    constructor
    · rintro ⟨r, t', rfl, t₁, t₂, a, rfl, h₁, h₂⟩
      exact ⟨⟨c, r⟩ :: t₁, t₂, a, rfl, ⟨r, t₁, rfl, h₁⟩, h₂⟩
    · rintro ⟨_, t₂, a, rfl, ⟨r, t₁, rfl, h₁⟩, h₂⟩
      exact ⟨r, t₁ ++ t₂, rfl, t₁, t₂, a, rfl, h₁, h₂⟩

/-- A result that is only rewritten is asked for in the same way. -/
lemma yields_map_iff {p : Program I α} {f : α → β} {t : Trace I} {b : β} :
    (p.bind fun a => .done (f a)).Yields t b ↔ ∃ a, p.Yields t a ∧ b = f a := by
  rw [yields_bind_iff]
  constructor
  · rintro ⟨t₁, t₂, a, rfl, h₁, h₂⟩
    obtain ⟨rfl, rfl⟩ := yields_done_iff.1 h₂
    rw [List.append_nil]
    exact ⟨a, h₁, rfl⟩
  · rintro ⟨a, h, rfl⟩
    exact ⟨t, [], a, (List.append_nil t).symm, h, .here _⟩

/-- After the whole run of the first of two programs, a run stands in the second one. -/
lemma Yields.after_bind {p : Program I α} {f : α → Program I β} {t u : Trace I} {a : α}
    {q : Program I β} (h : p.Yields t a) (hq : (p.bind f).After (t ++ u) q) : (f a).After u q := by
  induction p generalizing t with
  | done b =>
    obtain ⟨rfl, rfl⟩ := yields_done_iff.1 h
    exact hq
  | cut => exact absurd h not_yields_cut
  | ask c next ih =>
    obtain ⟨r, t', rfl, hnext⟩ := yields_ask_iff.1 h
    cases hq with
    | answered hq => exact ih r hnext hq

/-- What follows in the second of two programs follows the whole run of the first one. -/
lemma Yields.bind_after {p : Program I α} {f : α → Program I β} {t u : Trace I} {a : α}
    {q : Program I β} (h : p.Yields t a) (hq : (f a).After u q) : (p.bind f).After (t ++ u) q := by
  induction p generalizing t with
  | done b =>
    obtain ⟨rfl, rfl⟩ := yields_done_iff.1 h
    exact hq
  | cut => exact absurd h not_yields_cut
  | ask c next ih =>
    obtain ⟨r, t', rfl, hnext⟩ := yields_ask_iff.1 h
    exact .answered (ih r hnext)

/-- Steps after which others follow end with a failure of theirs, or else the others have run. -/
lemma yields_steps_bind_iff {ε : Type} {x : ExceptT ε (Program I) α}
    {f : α → ExceptT ε (Program I) β} {t : Trace I} {outcome : Except ε β} :
    (x >>= f).run.Yields t outcome ↔
      (∃ failure, x.run.Yields t (.error failure) ∧ outcome = .error failure) ∨
        ∃ t₁ t₂ a, t = t₁ ++ t₂ ∧ x.run.Yields t₁ (.ok a) ∧ (f a).run.Yields t₂ outcome := by
  rw [ExceptT.run_bind, bind_eq, yields_bind_iff]
  constructor
  · rintro ⟨t₁, t₂, failure | a, rfl, h₁, h₂⟩
    · obtain ⟨rfl, rfl⟩ := yields_done_iff.1 h₂
      rw [List.append_nil]
      exact .inl ⟨failure, h₁, rfl⟩
    · exact .inr ⟨t₁, t₂, a, rfl, h₁, h₂⟩
  · rintro (⟨failure, h, rfl⟩ | ⟨t₁, t₂, a, rfl, h₁, h₂⟩)
    · exact ⟨t, [], .error failure, (List.append_nil t).symm, h, .here _⟩
    · exact ⟨t₁, t₂, .ok a, rfl, h₁, h₂⟩

/-! ### Runs that are cut -/

@[simp] lemma not_done_after_cut {a : α} {t : Trace I} :
    ¬ (Program.done a : Program I α).After t .cut := by
  simp

@[simp] lemma ask_after_cut_iff {c : I.Call} {next : I.Answer c → Program I α} {t : Trace I} :
    (Program.ask c next).After t .cut ↔ ∃ r t', t = ⟨c, r⟩ :: t' ∧ (next r).After t' .cut := by
  simp [after_ask_iff]

/-- A sequence of two programs is cut in the first or in the second. -/
lemma bind_after_cut_iff {p : Program I α} {f : α → Program I β} {t : Trace I} :
    (p.bind f).After t .cut ↔
      p.After t .cut ∨ ∃ t₁ t₂ a, t = t₁ ++ t₂ ∧ p.Yields t₁ a ∧ (f a).After t₂ .cut := by
  induction p generalizing t with
  | done a => simp
  | cut => simp
  | ask c next ih =>
    simp only [ask_bind, ask_after_cut_iff, yields_ask_iff, ih]
    constructor
    · rintro ⟨r, t', rfl, h | ⟨t₁, t₂, a, rfl, h₁, h₂⟩⟩
      · exact .inl ⟨r, t', rfl, h⟩
      · exact .inr ⟨⟨c, r⟩ :: t₁, t₂, a, rfl, ⟨r, t₁, rfl, h₁⟩, h₂⟩
    · rintro (⟨r, t', rfl, h⟩ | ⟨_, t₂, a, rfl, ⟨r, t₁, rfl, h₁⟩, h₂⟩)
      · exact ⟨r, t', rfl, .inl h⟩
      · exact ⟨r, t₁ ++ t₂, rfl, .inr ⟨t₁, t₂, a, rfl, h₁, h₂⟩⟩

lemma map_after_cut_iff {p : Program I α} {f : α → β} {t : Trace I} :
    (p.bind fun a => .done (f a)).After t .cut ↔ p.After t .cut := by
  simp [bind_after_cut_iff]

/-- A sequence of two programs stands in the second one, or it has not left the first one. -/
lemma After.of_bind {p : Program I α} {f : α → Program I β} {t : Trace I} {q : Program I β}
    (h : (p.bind f).After t q) :
    (∃ t₁ t₂ a, t = t₁ ++ t₂ ∧ p.Yields t₁ a ∧ (f a).After t₂ q) ∨
      (∃ m, p.After t m) ∧ ∀ b, q ≠ .done b := by
  induction p generalizing t with
  | done a => exact .inl ⟨[], t, a, rfl, .here _, h⟩
  | cut =>
    obtain ⟨rfl, rfl⟩ := after_cut_iff.1 h
    exact .inr ⟨⟨.cut, .here _⟩, by rintro _ ⟨⟩⟩
  | ask c next ih =>
    rcases after_ask_iff.1 h with ⟨rfl, rfl⟩ | ⟨r, t', rfl, hnext⟩
    · exact .inr ⟨⟨.ask c next, .here _⟩, by rintro _ ⟨⟩⟩
    · rcases ih r hnext with ⟨t₁, t₂, a, rfl, h₁, h₂⟩ | ⟨⟨m, hm⟩, hq⟩
      · exact .inl ⟨⟨c, r⟩ :: t₁, t₂, a, rfl, .answered h₁, h₂⟩
      · exact .inr ⟨⟨m, .answered hm⟩, hq⟩

/-! ### What may be asked -/

/-- Some run of a program asks a call. -/
def MayAsk (p : Program I α) (c : I.Call) : Prop := ∃ t next, p.After t (.ask c next)

variable {c : I.Call}

@[simp] lemma not_mayAsk_done {a : α} : ¬ (Program.done a : Program I α).MayAsk c := by
  simp [MayAsk]

@[simp] lemma not_mayAsk_cut : ¬ (Program.cut : Program I α).MayAsk c := by
  simp [MayAsk]

lemma mayAsk_ask_iff {d : I.Call} {next : I.Answer d → Program I α} :
    (Program.ask d next).MayAsk c ↔ c = d ∨ ∃ r, (next r).MayAsk c := by
  constructor
  · rintro ⟨t, q, h⟩
    cases h with
    | here => exact .inl rfl
    | answered h => exact .inr ⟨_, _, q, h⟩
  · rintro (rfl | ⟨r, t, q, h⟩)
    · exact ⟨[], next, .here _⟩
    · exact ⟨⟨d, r⟩ :: t, q, .answered h⟩

/-- A sequence of two programs asks what one of them asks. -/
lemma MayAsk.of_bind {p : Program I α} {f : α → Program I β} (h : (p.bind f).MayAsk c) :
    p.MayAsk c ∨ ∃ a, (f a).MayAsk c := by
  induction p with
  | done a => exact .inr ⟨a, h⟩
  | cut => exact absurd h not_mayAsk_cut
  | ask d next ih =>
    rcases mayAsk_ask_iff.1 h with rfl | ⟨r, h⟩
    · exact .inl (mayAsk_ask_iff.2 (.inl rfl))
    · rcases ih r h with h | h
      · exact .inl (mayAsk_ask_iff.2 (.inr ⟨r, h⟩))
      · exact .inr h

/-- What a program asks is asked by the sequences that begin with it. -/
lemma MayAsk.bind {p : Program I α} {f : α → Program I β} (h : p.MayAsk c) :
    (p.bind f).MayAsk c := by
  induction p with
  | done a => exact absurd h not_mayAsk_done
  | cut => exact absurd h not_mayAsk_cut
  | ask d next ih =>
    rcases mayAsk_ask_iff.1 h with rfl | ⟨r, h⟩
    · exact mayAsk_ask_iff.2 (.inl rfl)
    · exact mayAsk_ask_iff.2 (.inr ⟨r, ih r h⟩)

/-- Steps after which others follow ask what these or those ask. -/
lemma MayAsk.of_steps_bind {ε : Type} {x : ExceptT ε (Program I) α}
    {f : α → ExceptT ε (Program I) β} (h : (x >>= f).run.MayAsk c) :
    x.run.MayAsk c ∨ ∃ a, (f a).run.MayAsk c := by
  rw [ExceptT.run_bind, bind_eq] at h
  rcases h.of_bind with h | ⟨failure | a, h⟩
  · exact .inl h
  · exact absurd h not_mayAsk_done
  · exact .inr ⟨a, h⟩

/-- A call that was answered may be asked. -/
lemma After.mayAsk {p q : Program I α} {t : Trace I} (h : p.After t q) :
    ∀ e ∈ t, p.MayAsk e.call := by
  induction h with
  | here p => exact fun _ he => absurd he List.not_mem_nil
  | answered _ ih =>
    intro e he
    rcases List.mem_cons.1 he with rfl | he
    · exact mayAsk_ask_iff.2 (.inl rfl)
    · exact mayAsk_ask_iff.2 (.inr ⟨_, ih e he⟩)

end Program

end BucketOperator
