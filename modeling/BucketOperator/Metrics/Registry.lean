import BucketOperator.Duration
import BucketOperator.Metrics.Event

/-!
# The metrics registry

Counters, gauges and histograms, each a family of series that differ in the values of their
labels. A series exists from its first event on.
-/

namespace BucketOperator.Metrics

/-- The series of a family, in increasing order of their label values. -/
abbrev Family (α : Type) := List (List String × α)

namespace Family

variable {α : Type}

/-- The series with these label values. -/
def get? (family : Family α) (labels : List String) : Option α := family.lookup labels

/-- Change one series; `fresh` is the state of one that does not exist yet. -/
def update (labels : List String) (fresh : α) (change : α → α) : Family α → Family α
  | [] => [(labels, change fresh)]
  | (l, a) :: rest =>
    if labels < l then (labels, change fresh) :: (l, a) :: rest
    else if labels = l then (l, change a) :: rest
    else (l, a) :: update labels fresh change rest

end Family

/-- Observations, counted by the first bound they do not exceed. -/
structure Histogram where
  /-- How many observations fell on each bound; the last count is of those beyond all bounds. -/
  counts : List Nat
  sum : Binary64
  deriving DecidableEq, Inhabited

namespace Histogram

/-- The histogram without observations for a number of bounds. -/
def empty (bounds : Nat) : Histogram := ⟨List.replicate (bounds + 1) 0, .zero⟩

/-- Count an observation at the first bound it does not exceed. -/
def place (value : Binary64) : List Binary64 → List Nat → List Nat
  | bound :: bounds, count :: counts =>
    if value.le bound then (count + 1) :: counts else count :: place value bounds counts
  | [], count :: counts => (count + 1) :: counts
  | _, [] => []

def observe (bounds : List Binary64) (value : Binary64) (h : Histogram) : Histogram :=
  ⟨place value bounds h.counts, h.sum.add value⟩

/-- How many observations there are. -/
def count (h : Histogram) : Nat := h.counts.foldr (· + ·) 0

/-- The running totals of counts. -/
def runningTotals (before : Nat) : List Nat → List Nat
  | [] => []
  | n :: rest => (before + n) :: runningTotals (before + n) rest

/-- How many observations do not exceed each bound, and in the end how many there are. -/
def cumulative (h : Histogram) : List Nat := runningTotals 0 h.counts

end Histogram

/-- Everything that is counted. -/
structure Registry where
  /-- By status. -/
  reconciliations : Family Nat
  /-- By status. -/
  reconcileDurations : Family Histogram
  /-- By the category of the failure. -/
  errors : Family Nat
  /-- By operation, provider and status. -/
  providerCalls : Family Nat
  /-- By operation and provider. -/
  providerDurations : Family Histogram
  /-- By bucket; one for each bucket that was deleted. -/
  deletions : Family Nat
  /-- By whether the lease was acquired or lost. -/
  elections : Family Nat
  /-- By pod; one if it holds the lease. -/
  leaders : Family Nat
  deriving DecidableEq, Inhabited

namespace Registry

def empty : Registry := ⟨[], [], [], [], [], [], [], []⟩

/-- A bound of a number of hundredths of a second. -/
def hundredths (n : Nat) : Binary64 := .ofDecimal false n (-2)

/-- The bounds for durations of reconciliations. -/
def reconcileBounds : List Binary64 :=
  [10, 50, 100, 200, 500, 1000, 3000, 6000, 30000, 90000].map hundredths

/-- The bounds for durations of provider calls. -/
def providerBounds : List Binary64 :=
  [5, 10, 50, 100, 200, 500, 1000, 3000, 12000, 60000].map hundredths

/-- Count one more. -/
def increment (labels : List String) (family : Family Nat) : Family Nat :=
  family.update labels 0 (· + 1)

/-- Observe a duration. -/
def observe (bounds : List Binary64) (labels : List String) (duration : Nat)
    (family : Family Histogram) : Family Histogram :=
  family.update labels (.empty bounds.length) (.observe bounds (Duration.seconds duration))

/-- How a call went, as a label. -/
def statusLabel (succeeded : Bool) : String := if succeeded then "success" else "error"

/-- Take an event into account. -/
def record (r : Registry) : Event → Registry
  | .reconciled duration =>
    { r with
      reconciliations := increment ["success"] r.reconciliations
      reconcileDurations := observe reconcileBounds ["success"] duration r.reconcileDurations }
  | .reconcileFailed reason duration =>
    { r with
      reconciliations := increment ["error"] r.reconciliations
      reconcileDurations := observe reconcileBounds ["error"] duration r.reconcileDurations
      errors := increment [reason] r.errors }
  | .providerCalled provider operation succeeded duration =>
    { r with
      providerCalls :=
        increment [operation, provider, statusLabel succeeded] r.providerCalls
      providerDurations :=
        observe providerBounds [operation, provider] duration r.providerDurations }
  | .bucketDeleted bucket => { r with deletions := r.deletions.update [bucket] 0 fun _ => 1 }
  | .leaderElected pod =>
    { r with
      elections := increment ["acquired"] r.elections
      leaders := r.leaders.update [pod] 0 fun _ => 1 }
  | .leaderLost pod =>
    { r with
      elections := increment ["lost"] r.elections
      leaders := r.leaders.update [pod] 0 fun _ => 0 }

end Registry

end BucketOperator.Metrics
