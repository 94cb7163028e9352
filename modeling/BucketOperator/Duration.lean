import BucketOperator.Binary64

/-!
# Durations

Times are counted in nanoseconds, and converted to and from double precision seconds.
-/

namespace BucketOperator.Duration

def nanosPerSecond : Nat := 1000000000

def nanosPerMilli : Nat := 1000000

/-- A duration in seconds: whole seconds and the rest are converted apart. -/
def seconds (nanos : Nat) : Binary64 :=
  (Binary64.ofInt (nanos / nanosPerSecond)).add
    ((Binary64.ofInt (nanos % nanosPerSecond)).div (.ofInt nanosPerSecond))

/-- The duration nearest to a number of seconds; `none` when it is negative or too long to count
in seconds of 64 bits. -/
def ofSeconds? : Binary64 → Option Nat
  | .finite negative mantissa exponent =>
    if negative && mantissa != 0 then none
    else
      let (num, den) := Binary64.ratio mantissa exponent
      let nanos := roundDiv (num * nanosPerSecond) den
      if nanos / nanosPerSecond < Nat.pow 2 64 then some nanos else none
  | _ => none

end BucketOperator.Duration
