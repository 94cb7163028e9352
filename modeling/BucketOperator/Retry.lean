import BucketOperator.Backoff
import BucketOperator.World

/-!
# Repeated attempts

An attempt is repeated while its outcome asks for it and the backoff is not spent; the last
outcome is the result. A run of more than `patience` attempts is cut.
-/

namespace BucketOperator.Retry

variable {α : Type}

inductive Call where
  | attempt
  | sleep (duration : Nat)
  | clock

/-- What a call answers when attempts have outcomes in `α`. -/
def Call.Answer (α : Type) : Call → Type
  | .attempt => α
  | .sleep _ => Unit
  | .clock => Nat

/-- Attempts with an outcome in `α`, and the passing of time. -/
abbrev Interface (α : Type) : BucketOperator.Interface := ⟨Call, Call.Answer α⟩

/-- Attempt until the outcome does not ask for another attempt or the backoff, started at `start`,
is spent. -/
def attemptFrom (again : α → Bool) (start : Nat) : Nat → Backoff → Program (Interface α) α
  | 0, _ => .cut
  | patience + 1, backoff =>
    .ask .attempt fun (outcome : α) =>
      if again outcome then
        .ask .clock fun (now : Nat) =>
          if backoff.isSpent (now - start) then .done outcome
          else
            match backoff.advance? with
            | none => .cut
            | some next =>
              .ask (.sleep backoff.current) fun _ => attemptFrom again start patience next
      else .done outcome

/-- Attempt with a fresh backoff. -/
def persist (patience : Nat) (again : α → Bool) (backoff : Backoff) : Program (Interface α) α :=
  .ask .clock fun (start : Nat) => attemptFrom again start patience backoff

/-- How the calls are made in the world. -/
def Call.serve (attempt : Program World α) : (c : Call) → Program World (Call.Answer α c)
  | .attempt => attempt
  | .sleep duration => World.sleep duration
  | .clock => World.clock

/-- Run attempts as a program of the world. -/
def inWorld (attempt : Program World α) (program : Program (Interface α) α) : Program World α :=
  program.substitute (Call.serve attempt)

end BucketOperator.Retry
