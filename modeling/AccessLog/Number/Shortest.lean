import AccessLog.Number.Binary64

/-!
# Shortest decimal digits of a float

Every finite float `v = m · 2^e` owns an interval of reals that round to it: halfway to its
neighbours on either side, ends included when `m` is even. Below a power of two the lower
neighbour is twice as close. The *shortest digits* of `v` are the fewest decimal digits `d`, with
an exponent `k`, such that `d · 10^k` lies in that interval; among candidates of that length the
one nearest to `v` wins, and of two equally near the even one.

For each length `n` only two candidates matter: the neighbours of `v` on the grid of step
`10^(E - n + 1)`, where `10^E ≤ v < 10^(E+1)`. If any point of that grid lies in the interval, one
of the two does, since the interval contains `v`. Seventeen digits always suffice.

All comparisons are exact: every quantity is scaled to a common integer denominator.

## Main statements

* `Decimal.normalize_zero`: zero stays zero.
-/

namespace AccessLog.Number

/-- The value `digits · 10^exp`. -/
structure Decimal where
  /-- The significand. -/
  digits : Nat
  /-- The power of ten it is scaled by. -/
  exp : Int
  deriving Repr, DecidableEq

/-- Removes trailing zero digits of the significand, raising the exponent, at most `fuel` times. -/
def Decimal.normalizeWith : Nat → Decimal → Decimal
  | 0, d => d
  | fuel + 1, d =>
    if d.digits ≠ 0 ∧ d.digits % 10 = 0 then
      Decimal.normalizeWith fuel ⟨d.digits / 10, d.exp + 1⟩
    else d

/-- The same value with no trailing zero digit in the significand. -/
def Decimal.normalize (d : Decimal) : Decimal :=
  Decimal.normalizeWith (decimalLength d.digits) d

theorem Decimal.normalize_zero (k : Int) : (Decimal.mk 0 k).normalize = ⟨0, k⟩ := by
  simp [Decimal.normalize, decimalLength, Nat.toDigits, Nat.toDigitsCore, Decimal.normalizeWith]

/-- The interval of reals that round to `m · 2^e`, scaled by `2^shift` so that its ends are
integers: `(low, value, high, shift, inclusive)`. -/
def roundingInterval (m : Nat) (e : Int) : Nat × Nat × Nat × Nat × Bool :=
  let shift : Nat := (2 - e).toNat
  let unit : Nat := Nat.pow 2 (e + shift).toNat
  let value := m * unit
  let half := unit / 2
  let below := if m == Nat.pow 2 52 && e > -1074 then unit / 4 else half
  (value - below, value, value + half, shift, m % 2 == 0)

/-- Compares `a · 2^e` with `b · 10^k`, all exact. -/
def comparePowers (a : Nat) (e : Int) (b : Nat) (k : Int) : Ordering :=
  let lhs := a * Nat.pow 2 e.toNat * Nat.pow 10 (-k).toNat
  let rhs := b * Nat.pow 10 k.toNat * Nat.pow 2 (-e).toNat
  compare lhs rhs

/-- The exponent `E` with `10^E ≤ m · 2^e < 10^(E+1)`, for `m > 0`: an estimate from the binary
length, corrected by exact comparison. -/
def decimalExponent (m : Nat) (e : Int) : Int :=
  let guess : Int := ((Nat.log2 m : Int) + e) * 30103 / 100000
  let rec fix : Nat → Int → Int
    | 0, k => k
    | fuel + 1, k =>
      if comparePowers m e 1 k == .lt then fix fuel (k - 1)
      else if comparePowers m e 1 (k + 1) != .lt then fix fuel (k + 1)
      else k
  fix 8 guess

/-- Whether `c · 10^k` lies in the rounding interval of `m · 2^e`. -/
def inInterval (m : Nat) (e : Int) (c : Nat) (k : Int) : Bool :=
  let (low, _, high, shift, incl) := roundingInterval m e
  -- the interval ends are `low / 2^shift` and `high / 2^shift`
  let lowCmp := comparePowers low (-(shift : Int)) c k
  let highCmp := comparePowers high (-(shift : Int)) c k
  let aboveLow := lowCmp == .lt || (incl && lowCmp == .eq)
  let belowHigh := highCmp == .gt || (incl && highCmp == .eq)
  aboveLow && belowHigh

/-- The shortest digits of `m · 2^e` for `m > 0`, trying lengths `1, 2, …` in turn. -/
def shortestDigits (m : Nat) (e : Int) : Decimal :=
  let big := decimalExponent m e
  let rec attempt : Nat → Nat → Decimal
    | 0, _ => ⟨m, 0⟩
    | fuel + 1, n =>
      let k : Int := big - (n : Int) + 1
      -- the grid neighbours of the value: `lo · 10^k ≤ v < (lo + 1) · 10^k`
      let num := m * Nat.pow 2 e.toNat * Nat.pow 10 (-k).toNat
      let den := Nat.pow 2 (-e).toNat * Nat.pow 10 k.toNat
      let lo := num / den
      let hi := lo + 1
      let okLo := inInterval m e lo k
      let okHi := inInterval m e hi k
      if okLo && okHi then
        -- the nearer of the two; `2v` against `(2 lo + 1) · 10^k`
        match compare (2 * num) ((2 * lo + 1) * den) with
        | .lt => ⟨lo, k⟩
        | .gt => ⟨hi, k⟩
        | .eq => if lo % 2 == 0 then ⟨lo, k⟩ else ⟨hi, k⟩
      else if okLo then ⟨lo, k⟩
      else if okHi then ⟨hi, k⟩
      else attempt fuel (n + 1)
  (attempt 17 1).normalize

end AccessLog.Number
