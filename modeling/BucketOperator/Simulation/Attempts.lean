import BucketOperator.Kubernetes.Client

/-!
# Simulated attempts

Attempts whose outcomes are given in advance. After the last one given every attempt succeeds.
-/

namespace BucketOperator.Simulation.Attempts

open Kubernetes (asControlPlane asksAgain)

structure State where
  outcomes : List (Except Kubernetes.Failure Unit)
  /-- How many attempts were made. -/
  attempts : Nat
  /-- How long was slept. -/
  elapsed : Nat

def serve : (c : Retry.Call) → State → c.Answer (Except Kubernetes.Failure Unit) × State
  | .attempt, s =>
    (s.outcomes.headD (.ok ()), { s with outcomes := s.outcomes.tail, attempts := s.attempts + 1 })
  | .sleep duration, s => ((), { s with elapsed := s.elapsed + duration })
  | .clock, s => ((0 : Nat), s)

/-- Repeat attempts as calls of the Kubernetes API are repeated. -/
def run (patience : Nat) (outcomes : List (Except Kubernetes.Failure Unit)) :
    Option (Except Failure Unit) × State :=
  let program : Program (Retry.Interface (Except Kubernetes.Failure Unit)) _ :=
    Retry.persist patience asksAgain Backoff.forCalls
  let (outcome, s) := program.run serve ⟨outcomes, 0, 0⟩
  (outcome.map asControlPlane, s)

end BucketOperator.Simulation.Attempts
