/-!
# Binary floating point numbers of 64 bits

A number is a sign, a mantissa below `2 ^ 53` and a power of two, so every operation is exact
integer arithmetic followed by one rounding. All roundings go to the nearest number, a tie to the
one with an even mantissa.
-/

namespace BucketOperator

/-- A number of the binary64 format. The finite ones are normal or have exponent `-1074`. -/
inductive Binary64 where
  | finite (negative : Bool) (mantissa : Nat) (exponent : Int)
  | infinite (negative : Bool)
  | nan
  deriving DecidableEq, Repr, Inhabited

/-- The quotient rounded to the nearest integer, a half to the even neighbour. -/
def roundDiv (num den : Nat) : Nat :=
  let q := num / den
  let r := 2 * (num % den)
  if r < den then q else if den < r then q + 1 else q + q % 2

namespace Binary64

/-- The number of bits of a mantissa. -/
def precision : Nat := 53

/-- The exponent of the numbers closest to zero. -/
def minExponent : Int := -1074

/-- The exponent of the largest finite numbers. -/
def maxExponent : Int := 971

def zero : Binary64 := .finite false 0 minExponent

/-- `num / den * 2 ^ -e` rounded to an integer. -/
private def scaledRound (num den : Nat) (e : Int) : Nat :=
  if 0 ≤ e then roundDiv num (den * Nat.pow 2 e.toNat)
  else roundDiv (num * Nat.pow 2 (-e).toNat) den

/-- The finite number with this mantissa and exponent, its mantissa at most `2 ^ 53`. -/
private def pack (negative : Bool) (mantissa : Nat) (e : Int) : Binary64 :=
  let (m, e) :=
    if mantissa = Nat.pow 2 precision then (Nat.pow 2 (precision - 1), e + 1) else (mantissa, e)
  if maxExponent < e then .infinite negative else .finite negative m e

/-- The number nearest to `num / den`, for a positive `den`. -/
def ofRatio (negative : Bool) (num den : Nat) : Binary64 :=
  if num = 0 then .finite negative 0 minExponent
  else
    let guess : Int := num.log2 - den.log2 - precision
    -- The quotient lies between two powers of two, so one of two exponents fills the mantissa.
    let tooSmall :=
      if 0 ≤ guess then num / (den * Nat.pow 2 guess.toNat)
      else num * Nat.pow 2 (-guess).toNat / den
    let e := if tooSmall < Nat.pow 2 precision then guess else guess + 1
    let e := max e minExponent
    pack negative (scaledRound num den e) e

/-- The number nearest to an integer. -/
def ofInt (n : Int) : Binary64 :=
  .ofRatio (n < 0) n.natAbs 1

/-- The number nearest to `digits * 10 ^ power`. -/
def ofDecimal (negative : Bool) (digits : Nat) (power : Int) : Binary64 :=
  if 0 ≤ power then .ofRatio negative (digits * Nat.pow 10 power.toNat) 1
  else .ofRatio negative digits (Nat.pow 10 (-power).toNat)

/-- Numerator and denominator of a magnitude `mantissa * 2 ^ exponent`. -/
def ratio (mantissa : Nat) (exponent : Int) : Nat × Nat :=
  if 0 ≤ exponent then (mantissa * Nat.pow 2 exponent.toNat, 1)
  else (mantissa, Nat.pow 2 (-exponent).toNat)

/-- The product, rounded once. -/
def mul : Binary64 → Binary64 → Binary64
  | .finite s m e, .finite t n f =>
    let (num, den) := ratio (m * n) (e + f)
    .ofRatio (s != t) num den
  | .nan, _ => .nan
  | _, .nan => .nan
  | .infinite s, .infinite t => .infinite (s != t)
  | .infinite s, .finite t n _ => if n = 0 then .nan else .infinite (s != t)
  | .finite s m _, .infinite t => if m = 0 then .nan else .infinite (s != t)

/-- The quotient of finite numbers, rounded once; a zero divisor gives an infinity or NaN. -/
def div : Binary64 → Binary64 → Binary64
  | .finite s m e, .finite t n f =>
    if n = 0 then (if m = 0 then .nan else .infinite (s != t))
    else
      let (a, b) := ratio m e
      let (c, d) := ratio n f
      .ofRatio (s != t) (a * d) (b * c)
  | .nan, _ => .nan
  | _, .nan => .nan
  | .infinite _, .infinite _ => .nan
  | .infinite s, .finite t _ _ => .infinite (s != t)
  | .finite s _ _, .infinite t => .finite (s != t) 0 minExponent

/-- The sum, rounded once. -/
def add : Binary64 → Binary64 → Binary64
  | .finite s m e, .finite t n f =>
    let low := min e f
    let a : Int := m * Nat.pow 2 (e - low).toNat
    let b : Int := n * Nat.pow 2 (f - low).toNat
    let total := (if s then -a else a) + (if t then -b else b)
    let (num, den) := ratio total.natAbs low
    .ofRatio (if total = 0 then s && t else total < 0) num den
  | .nan, _ => .nan
  | _, .nan => .nan
  | .infinite s, .infinite t => if s = t then .infinite s else .nan
  | .infinite s, .finite _ _ _ => .infinite s
  | .finite _ _ _, .infinite t => .infinite t

/-- Whether a finite number is at most another finite number. -/
def le : Binary64 → Binary64 → Bool
  | .finite s m e, .finite t n f =>
    let low := min e f
    let a : Int := m * Nat.pow 2 (e - low).toNat
    let b : Int := n * Nat.pow 2 (f - low).toNat
    (if s then -a else a) ≤ (if t then -b else b)
  | .infinite s, .infinite t => s || !t
  | .infinite s, .finite _ _ _ => s
  | .finite _ _ _, .infinite t => !t
  | _, _ => false

/-! ### Shortest decimal text -/

/-- The decimal grid points of spacing `10 ^ k` next to `num / den`, the lower one first. -/
private def neighbours (num den : Nat) (k : Int) : Nat × Nat :=
  let q :=
    if 0 ≤ k then num / (den * Nat.pow 10 k.toNat) else num * Nat.pow 10 (-k).toNat / den
  (q, q + 1)

/-- The number `d * 10 ^ k` as numerator and denominator. -/
private def decimalRatio (d : Nat) (k : Int) : Nat × Nat :=
  if 0 ≤ k then (d * Nat.pow 10 k.toNat, 1) else (d, Nat.pow 10 (-k).toNat)

/-- Whether `d * 10 ^ k` rounds to the positive number with this mantissa and exponent. -/
private def readsBack (mantissa : Nat) (exponent : Int) (d : Nat) (k : Int) : Bool :=
  let (num, den) := decimalRatio d k
  ofRatio false num den == .finite false mantissa exponent

/-- Of two neighbouring grid points that may read back, the one to write. -/
private def choose (mantissa : Nat) (exponent : Int) (k : Int) : Option Nat :=
  let (num, den) := ratio mantissa exponent
  let (low, high) := neighbours num den k
  match readsBack mantissa exponent low k && low != 0, readsBack mantissa exponent high k with
  | true, false => some low
  | false, true => some high
  | false, false => none
  | true, true =>
    -- Compare twice the value with the sum of both grid points.
    let (a, b) := decimalRatio (low + high) k
    if 2 * num * b < a * den then some low
    else if a * den < 2 * num * b then some high
    else some (if low % 2 = 0 then low else high)

/-- The number of decimal digits of a positive number. -/
private def digitCount (n : Nat) : Nat := (Nat.toDigits 10 n).length

/-- The power of ten of the first digit: the largest `p` with `10 ^ p ≤ num / den`. -/
private def leadingPower (num den : Nat) : Int :=
  if den ≤ num then (digitCount (num / den) : Int) - 1
  else
    -- `num / den` lies below one: count the factors of ten that lift it to one.
    let n := digitCount (den / num)
    let lifted := num * Nat.pow 10 n
    if den * 10 ≤ lifted then 1 - (n : Int) else -(n : Int)

/-- The fewest digits that read back as the positive number, with the power of the last digit. -/
private def searchDigits (mantissa : Nat) (exponent : Int) (first : Int) : Nat → Nat → Nat × Int
  | 0, used => (mantissa, first - used + 1)
  | more + 1, used =>
    let k := first - used
    match choose mantissa exponent k with
    | some d => (d, k)
    | none => searchDigits mantissa exponent first more (used + 1)

/-- Drop trailing zeros of a digit string, raising the power of the last digit. -/
private def dropZeros : Nat → Nat → Int → Nat × Int
  | 0, d, k => (d, k)
  | fuel + 1, d, k => if d % 10 = 0 ∧ d ≠ 0 then dropZeros fuel (d / 10) (k + 1) else (d, k)

/-- Digits and power of the shortest decimal that reads back as a positive number. -/
def shortest (mantissa : Nat) (exponent : Int) : Nat × Int :=
  let (num, den) := ratio mantissa exponent
  let (d, k) := searchDigits mantissa exponent (leadingPower num den) 20 0
  dropZeros 20 d k

/-- The choices a format makes when it writes a number. -/
structure DecimalStyle where
  /-- Positional when the decimal point falls at most this many places after the first digit. -/
  longest : Option Int
  /-- Positional when at most this many zeros follow the point, for numbers below one. -/
  mostZeros : Option Int
  /-- Whether a whole number still ends in a point and a zero. -/
  wholePoint : Bool
  /-- Whether an exponent above zero shows its sign. -/
  plusSign : Bool

/-- Write a finite number in the given style. -/
def render (style : DecimalStyle) : Binary64 → String
  | .nan => "NaN"
  | .infinite s => if s then "-inf" else "inf"
  | .finite s m e =>
    let body :=
      if m = 0 then (if style.wholePoint then "0.0" else "0")
      else
        let (d, k) := shortest m e
        let digits := Nat.toDigits 10 d
        let point : Int := digits.length + k
        let fits := style.longest.all (point ≤ ·) && style.mostZeros.all (-point ≤ ·)
        if fits then
          if 0 ≤ k then
            String.ofList (digits ++ List.replicate k.toNat '0') ++
              (if style.wholePoint then ".0" else "")
          else if 0 < point then
            String.ofList (digits.take point.toNat ++ '.' :: digits.drop point.toNat)
          else
            "0." ++ String.ofList (List.replicate (-point).toNat '0' ++ digits)
        else
          let sign := if style.plusSign && 1 < point then "+" else ""
          let power := sign ++ toString (point - 1)
          match digits with
          | [c] => String.ofList [c] ++ "e" ++ power
          | c :: rest => String.ofList (c :: '.' :: rest) ++ "e" ++ power
          | [] => ""
    (if s then "-" else "") ++ body

/-- Plain positional text: `0.25`, `300`, never an exponent. -/
def plainStyle : DecimalStyle where
  longest := none
  mostZeros := none
  wholePoint := false
  plusSign := false

end Binary64

end BucketOperator
