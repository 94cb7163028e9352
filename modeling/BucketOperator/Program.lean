/-!
# Programs that talk to a world

A program asks questions of a typed interface and goes on from the answers. The same program is
run against a simulated world, which answers from a state, and reasoned about for every possible
answer. A run may also be cut: it then stops without a result, as a process that is killed does.
-/

namespace BucketOperator

/-- The questions a program may ask, each with the type of its answers. -/
structure Interface where
  Call : Type
  Answer : Call → Type

/-- A computation that asks calls of `I` one after the other, each chosen from earlier answers. -/
inductive Program (I : Interface) (α : Type) where
  | done (a : α)
  | ask (c : I.Call) (next : I.Answer c → Program I α)
  | cut

namespace Program

variable {I J : Interface} {α β γ : Type}

/-- Run a program, then the program its result selects. -/
def bind : Program I α → (α → Program I β) → Program I β
  | .done a, f => f a
  | .ask c next, f => .ask c fun r => (next r).bind f
  | .cut, _ => .cut

instance : Monad (Program I) where
  pure := .done
  bind := .bind

/-- Ask one call and return its answer. -/
def call (c : I.Call) : Program I (I.Answer c) :=
  .ask c .done

/-- Answer every call of a program by a program over another interface, threading a state. -/
def interpret {σ : Type} (serve : (c : I.Call) → σ → Program J (I.Answer c × σ)) :
    Program I α → σ → Program J (α × σ)
  | .done a, s => .done (a, s)
  | .ask c next, s => (serve c s).bind fun (r, s') => (next r).interpret serve s'
  | .cut, _ => .cut

/-- Answer every call of a program by a program over another interface. -/
def substitute (serve : (c : I.Call) → Program J (I.Answer c)) : Program I α → Program J α
  | .done a => .done a
  | .ask c next => (serve c).bind fun r => (next r).substitute serve
  | .cut => .cut

/-- Run a program against a world that answers from a state; `none` when the run was cut. -/
def run {σ : Type} (serve : (c : I.Call) → σ → I.Answer c × σ) :
    Program I α → σ → Option α × σ
  | .done a, s => (some a, s)
  | .ask c next, s => (next (serve c s).1).run serve (serve c s).2
  | .cut, s => (none, s)

/-! ### The monad laws -/

@[simp]
theorem pure_eq (a : α) : (pure a : Program I α) = .done a := rfl

@[simp]
theorem bind_eq (p : Program I α) (f : α → Program I β) : p >>= f = p.bind f := rfl

@[simp]
theorem done_bind (a : α) (f : α → Program I β) : (Program.done a).bind f = f a := rfl

@[simp]
theorem ask_bind (c : I.Call) (next : I.Answer c → Program I α) (f : α → Program I β) :
    (Program.ask c next).bind f = .ask c fun r => (next r).bind f := rfl

@[simp]
theorem cut_bind (f : α → Program I β) : (Program.cut : Program I α).bind f = .cut := rfl

@[simp]
theorem bind_done (p : Program I α) : p.bind .done = p := by
  induction p with
  | done a => rfl
  | ask c next ih => simp only [ask_bind, ih]
  | cut => rfl

theorem bind_assoc (p : Program I α) (f : α → Program I β) (g : β → Program I γ) :
    (p.bind f).bind g = p.bind fun a => (f a).bind g := by
  induction p with
  | done a => rfl
  | ask c next ih => simp only [ask_bind, ih]
  | cut => rfl

end Program

end BucketOperator
