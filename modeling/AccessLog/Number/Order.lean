import AccessLog.Number.Binary64

/-!
# Comparing floats

Floats compare as the numbers they stand for: two zeros are equal whatever their signs, the
infinities lie below and above every finite value, and not-a-number compares with nothing, so
every comparison involving it is false.

A finite float `(-1)^neg · m · 2^e` has `e ≥ -1074`, so `m · 2^(e + 1074)` is an integer that
orders finite floats exactly; the comparison is made on these integers.

## Main statements

* `compare_self_finite`: a float that is a number equals itself.
-/

namespace AccessLog.Number

/-- A point of the extended integer line. -/
inductive Extended where
  /-- Below every integer. -/
  | bottom
  /-- An integer. -/
  | point (z : Int)
  /-- Above every integer. -/
  | top
  deriving Repr, DecidableEq

/-- The order of two points of the extended line. -/
def Extended.compare : Extended → Extended → Ordering
  | .bottom, .bottom => .eq
  | .bottom, _ => .lt
  | _, .bottom => .gt
  | .top, .top => .eq
  | .top, _ => .gt
  | _, .top => .lt
  | .point a, .point b => Ord.compare a b

/-- Where a float lies on the extended line, scaled by `2^1074`; `none` for not-a-number. -/
def Binary64.scaled : Binary64 → Option Extended
  | .nan => none
  | .infinity neg => some (if neg then .bottom else .top)
  | .finite neg m e =>
    let z : Int := (m * Nat.pow 2 (e + 1074).toNat : Nat)
    some (.point (if neg then -z else z))

/-- The order of two floats as numbers; `none` when one is not a number. -/
def compareFloats (x y : Float) : Option Ordering :=
  match (view x).scaled, (view y).scaled with
  | some a, some b => some (a.compare b)
  | _, _ => none

/-- `x < y` as numbers. -/
def floatLt (x y : Float) : Bool := compareFloats x y == some .lt

/-- `x ≤ y` as numbers. -/
def floatLe (x y : Float) : Bool := compareFloats x y == some .lt || compareFloats x y == some .eq

theorem Extended.compare_self (a : Extended) : a.compare a = .eq := by
  cases a <;> simp [Extended.compare]

theorem compare_self_finite (x : Float) (h : (view x).scaled ≠ none) :
    compareFloats x x = some .eq := by
  unfold compareFloats
  cases hs : (view x).scaled with
  | none => exact absurd hs h
  | some a => simp [Extended.compare_self]

end AccessLog.Number
