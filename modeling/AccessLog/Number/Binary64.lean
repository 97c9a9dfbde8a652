/-!
# Binary64 values as exact numbers

A binary64 float is read here through its bits: not a number, a signed infinity, or a signed
finite value `m · 2^e` with `m < 2^53`. In the other direction, `roundRatio` gives the float
nearest to a non-negative fraction `num / den`, a tie going to the even significand, a value past
the largest finite float becoming infinity, and small values falling to subnormals or zero. Both
directions are exact integer arithmetic, so nothing depends on the machine's own conversions.

## Main statements

* `roundRatio_zero`: a zero numerator rounds to positive zero.
-/

namespace AccessLog.Number

/-- What a binary64 float is, read off its bits. -/
inductive Binary64 where
  /-- Not a number. -/
  | nan
  /-- An infinity of the given sign. -/
  | infinity (neg : Bool)
  /-- The finite value `(-1)^neg · m · 2^e`, with `m < 2^53`. -/
  | finite (neg : Bool) (m : Nat) (e : Int)
  deriving Repr, DecidableEq

/-- Reads a bit pattern: one sign bit, eleven exponent bits, fifty-two fraction bits. -/
def Binary64.ofBitsNat (b : Nat) : Binary64 :=
  let neg : Bool := b / Nat.pow 2 63 % 2 == 1
  let ex : Nat := b / Nat.pow 2 52 % Nat.pow 2 11
  let frac : Nat := b % Nat.pow 2 52
  if ex == 2047 then (if frac == 0 then .infinity neg else .nan)
  else if ex == 0 then .finite neg frac (-1074)
  else .finite neg (frac + Nat.pow 2 52) ((ex : Int) - 1075)

/-- The exact reading of a float. -/
def view (x : Float) : Binary64 := Binary64.ofBitsNat x.toBits.toNat

/-- The float with the given bit pattern. -/
def floatOfBits (b : Nat) : Float := Float.ofBits (UInt64.ofNat b)

/-- `⌊num · 2^(-e) / den⌋` together with the remainder and the divisor of that division. -/
def scaledQuotient (num den : Nat) (e : Int) : Nat × Nat × Nat :=
  if 0 ≤ e then
    let d := den * Nat.pow 2 e.toNat
    (num / d, num % d, d)
  else
    let n := num * Nat.pow 2 (-e).toNat
    (n / den, n % den, den)

/-- The bits (sign apart) of the float nearest to `num / den`, for `num > 0` and `den > 0`.

The exponent `e` is first chosen so that the quotient `q = ⌊num / (den · 2^e)⌋` has 53 bits,
and raised to `-1074` when that is lower, which is where subnormals live. The remainder then
decides the rounding: above one half rounds up, exactly one half rounds to an even `q`. A carry
to `2^53` moves one binade up, and an exponent past the largest binade gives infinity. -/
def roundPositive (num den : Nat) : Nat :=
  let e0 : Int := (Nat.log2 num : Int) - (Nat.log2 den : Int) - 52
  let (q0, _, _) := scaledQuotient num den e0
  let e1 : Int := if q0 < Nat.pow 2 52 then e0 - 1 else e0
  let e2 : Int := if e1 < -1074 then -1074 else e1
  let (q, r, d) := scaledQuotient num den e2
  let up := 2 * r > d || (2 * r == d && q % 2 == 1)
  let q1 := if up then q + 1 else q
  let (q2, e3) := if q1 == Nat.pow 2 53 then (Nat.pow 2 52, e2 + 1) else (q1, e2)
  if q2 < Nat.pow 2 52 then q2
  else
    let biased := e3 + 1075
    if 2047 ≤ biased then 2047 * Nat.pow 2 52
    else biased.toNat * Nat.pow 2 52 + (q2 - Nat.pow 2 52)

/-- The float nearest to `(-1)^neg · num / den`; a zero numerator gives a zero of that sign. -/
def roundRatio (neg : Bool) (num den : Nat) : Float :=
  let mag := if num == 0 || den == 0 then 0 else roundPositive num den
  floatOfBits (if neg then mag + Nat.pow 2 63 else mag)

theorem roundRatio_zero (den : Nat) : roundRatio false 0 den = floatOfBits 0 := by
  simp [roundRatio]

/-- The number of decimal digits of a natural number (one for zero). -/
def decimalLength (n : Nat) : Nat := (Nat.toDigits 10 n).length

/-- The float nearest to `(-1)^neg · digits · 10^exp`.

Values whose order of magnitude is past `10^311` are infinite and those below `10^-326` are zero
whatever their digits, so such exponents are settled before any power of ten is built. -/
def ofDecimal (neg : Bool) (digits : Nat) (exp : Int) : Float :=
  let size := (decimalLength digits : Int) + exp
  if digits == 0 then roundRatio neg 0 1
  else if 311 < size then
    floatOfBits (if neg then 2047 * Nat.pow 2 52 + Nat.pow 2 63 else 2047 * Nat.pow 2 52)
  else if size < -326 then roundRatio neg 0 1
  else if 0 ≤ exp then roundRatio neg (digits * Nat.pow 10 exp.toNat) 1
  else roundRatio neg digits (Nat.pow 10 (-exp).toNat)

/-- Positive infinity. -/
def infinity : Float := floatOfBits (2047 * Nat.pow 2 52)

/-- The float nearest to an integer, or `none` when that rounds past the largest finite float:
from `2^1024 - 2^970` on, the halfway point above the largest finite float. -/
def floatOfInt? (n : Int) : Option Float :=
  if Nat.pow 2 1024 - Nat.pow 2 970 ≤ n.natAbs then none
  else some (roundRatio (n < 0) n.natAbs 1)

/-- A quiet not-a-number. -/
def notANumber : Float := floatOfBits (2047 * Nat.pow 2 52 + Nat.pow 2 51)

/-- The integer part of a finite float, cut toward zero. -/
def truncate (neg : Bool) (m : Nat) (e : Int) : Int :=
  let mag : Nat := if 0 ≤ e then m * Nat.pow 2 e.toNat else m / Nat.pow 2 (-e).toNat
  if neg then -(mag : Int) else mag

end AccessLog.Number
