import BucketOperator.Duration

/-!
# Exponential backoff

Waiting times that grow by a factor, are capped, and end when a budget of total time is spent.
Growth is computed in double precision seconds.
-/

namespace BucketOperator

structure Backoff where
  /-- The next waiting time. -/
  current : Nat
  initial : Nat
  /-- The longest waiting time. -/
  longest : Nat
  /-- How much time may pass in total; unbounded when missing. -/
  budget : Option Nat
  /-- What each waiting time is multiplied by. -/
  multiplier : Binary64
  deriving DecidableEq, Inhabited

namespace Backoff

/-- A backoff that starts with `initial`. -/
def start (initial longest : Nat) (budget : Option Nat) (multiplier : Binary64) : Backoff :=
  ⟨initial, initial, longest, budget, multiplier⟩

def ofMillis (initial longest : Nat) (budget : Option Nat) (multiplier : Binary64) : Backoff :=
  start (initial * Duration.nanosPerMilli) (longest * Duration.nanosPerMilli)
    (budget.map (· * Duration.nanosPerMilli)) multiplier

/-- For calls: 100 ms, doubling up to 10 s, for two minutes. -/
def forCalls : Backoff := ofMillis 100 10000 (some 120000) (.ofInt 2)

/-- For polls of a long-running operation: 1 s, doubling up to 15 s, for a quarter of an hour. -/
def forPolls : Backoff := ofMillis 1000 15000 (some 900000) (.ofInt 2)

/-- A backoff that is spent from the start. -/
def spent : Backoff := ofMillis 100 10000 (some 0) (.ofInt 2)

/-- Whether the budget is spent after some time. -/
def isSpent (b : Backoff) (elapsed : Nat) : Bool := b.budget.any (· ≤ elapsed)

/-- The backoff after its next waiting time; `none` when the growth cannot be computed. -/
def advance? (b : Backoff) : Option Backoff :=
  (Duration.ofSeconds? ((Duration.seconds b.current).mul b.multiplier)).map fun next =>
    { b with current := min next b.longest }

/-- The next waiting times and the backoff after them. A spent backoff yields none. -/
def take : Nat → Backoff → Option (List (Option Nat) × Backoff)
  | 0, b => some ([], b)
  | n + 1, b =>
    if b.isSpent 0 then (take n b).map fun (times, last) => (none :: times, last)
    else do
      let (times, last) ← take n (← b.advance?)
      return (some b.current :: times, last)

end Backoff

end BucketOperator
