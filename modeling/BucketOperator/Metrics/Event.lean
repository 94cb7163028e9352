/-!
# Metric events

What is counted. Durations are in nanoseconds.
-/

namespace BucketOperator.Metrics

inductive Event where
  | reconciled (duration : Nat)
  | reconcileFailed (reason : String) (duration : Nat)
  | providerCalled (provider operation : String) (succeeded : Bool) (duration : Nat)
  | bucketDeleted (bucket : String)
  | leaderElected (pod : String)
  | leaderLost (pod : String)
  deriving DecidableEq, Repr

end BucketOperator.Metrics
