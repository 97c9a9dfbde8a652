
/-!
# Decimal digits

A decimal digit is a character of general category `Nd`. Every such character belongs to a run
of ten consecutive code points holding the values `0` to `9` in order, so the table lists only the
first code point of each run, and a digit's value is its distance from the start of its run.

## Main statements

* `digitValue?_ascii`: the ASCII digits have their usual values.
-/

namespace AccessLog.Text

/-- The code point of the digit zero of every run of decimal digits (Unicode 14.0), increasing. -/
def digitZeros : Array Nat := #[
  0x30, 0x660, 0x6f0, 0x7c0, 0x966, 0x9e6, 0xa66, 0xae6, 0xb66, 0xbe6, 0xc66, 0xce6, 0xd66, 0xde6,
  0xe50, 0xed0, 0xf20, 0x1040, 0x1090, 0x17e0, 0x1810, 0x1946, 0x19d0, 0x1a80, 0x1a90, 0x1b50,
  0x1bb0, 0x1c40, 0x1c50, 0xa620, 0xa8d0, 0xa900, 0xa9d0, 0xa9f0, 0xaa50, 0xabf0, 0xff10, 0x104a0,
  0x10d30, 0x11066, 0x110f0, 0x11136, 0x111d0, 0x112f0, 0x11450, 0x114d0, 0x11650, 0x116c0,
  0x11730, 0x118e0, 0x11950, 0x11c50, 0x11d50, 0x11da0, 0x16a60, 0x16ac0, 0x16b50, 0x1d7ce,
  0x1d7d8, 0x1d7e2, 0x1d7ec, 0x1d7f6, 0x1e140, 0x1e2f0, 0x1e950, 0x1fbf0]

/-- The largest zero at most `c` within the slice `[lo, hi)` of `digitZeros`, by binary search. -/
def zeroAtMost (c lo hi : Nat) (best : Option Nat) : Option Nat :=
  if _h : lo < hi then
    let mid := (lo + hi) / 2
    match digitZeros[mid]? with
    | some z => if z ≤ c then zeroAtMost c (mid + 1) hi (some z) else zeroAtMost c lo mid best
    | none => best
  else best
termination_by hi - lo

/-- The value of a decimal digit, or `none` for a character that is not one. -/
def digitValue? (c : Char) : Option Nat :=
  if '0' ≤ c ∧ c ≤ '9' then some (c.toNat - '0'.toNat)
  else if c.toNat < 0x660 then none
  else
    match zeroAtMost c.toNat 0 digitZeros.size none with
    | some z => if c.toNat - z < 10 then some (c.toNat - z) else none
    | none => none

/-- Whether a character is a decimal digit. -/
def isDecimal (c : Char) : Bool := (digitValue? c).isSome

theorem digitValue?_ascii (c : Char) (h : '0' ≤ c ∧ c ≤ '9') :
    digitValue? c = some (c.toNat - '0'.toNat) := by
  simp [digitValue?, h]

end AccessLog.Text
